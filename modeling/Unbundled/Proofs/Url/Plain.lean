import Unbundled.Artifact
import Unbundled.Proofs.Text.Split
import Unbundled.Proofs.Url.Resolution
import Mathlib.Data.List.TakeWhile

/-!
# Plain URLs

A URL that is made of names behind slashes, with no character in them that a URL gives a meaning
to, is its own path; the last name has its extension, and it resolves to the directory extended by
the names.
-/

namespace Unbundled

/-- A name that may stand in a URL as it is. -/
structure IsPlainName (s : List Char) : Prop where
  name : Path.IsName s
  query : '?' ∉ s
  fragment : '#' ∉ s
  percent : '%' ∉ s

instance decidableIsPlainName (s : List Char) : Decidable (IsPlainName s) :=
  decidable_of_iff (Path.IsName s ∧ '?' ∉ s ∧ '#' ∉ s ∧ '%' ∉ s)
    ⟨fun ⟨hname, hquery, hfragment, hpercent⟩ => ⟨hname, hquery, hfragment, hpercent⟩,
      fun h => ⟨h.name, h.query, h.fragment, h.percent⟩⟩

namespace Url

lemma path_of_plain {url : String} (hquery : '?' ∉ url.toList) (hfragment : '#' ∉ url.toList) :
    path url = url := by
  have htake : pathChars url.toList = url.toList := by
    refine List.takeWhile_eq_self_iff.2 fun c hc => ?_
    have hneq : c ≠ '?' := fun heq => hquery (heq ▸ hc)
    have hneq' : c ≠ '#' := fun heq => hfragment (heq ▸ hc)
    simp [hneq, hneq']
  rw [path, htake, String.ofList_toList]

lemma resolve_of_plain (base : Path) {path : String} (h : '%' ∉ path.toList) :
    resolve base path = if ['.', '.'] ∈ segments path.toList then .error (.forbidden path)
      else .ok (base.extend (segments path.toList)) := by
  have hpercent : (0x25 : UInt8) ∉ Utf8.encode path.toList :=
    fun hmem => h (Utf8.mem_encode_ascii (by decide) hmem)
  exact resolve_of_text (Percent.reads_iff.1 (Percent.writes_self hpercent).reads)

/-- The extension of a path is that of what stands behind any slash in it. -/
lemma extensionChars?_slash (as cs : List Char) :
    extensionChars? (as ++ '/' :: cs) = extensionChars? cs := by
  have hstop : (('/' :: as.reverse).takeWhile fun c : Char => decide (c ≠ '/')) = [] := by simp
  have hbehind : (as ++ '/' :: cs).reverse.takeWhile (· ≠ '/') =
      cs.reverse.takeWhile (· ≠ '/') := by
    rw [List.reverse_append, List.reverse_cons, List.append_assoc, List.singleton_append,
      List.takeWhile_append, hstop, List.append_nil]
    split_ifs with hlength
    · exact ((List.takeWhile_prefix _).eq_of_length hlength).symm
    · rfl
  rw [extensionChars?, extensionChars?, hbehind]

/-! ## Names behind slashes -/

lemma joined_append (as bs : List (List Char)) : joined (as ++ bs) = joined as ++ joined bs :=
  List.flatMap_append

lemma joined_singleton (s : List Char) : joined [s] = '/' :: s := by
  rw [joined, List.flatMap_cons, List.flatMap_nil, List.append_nil]

lemma not_mem_joined {names : List (List Char)} {c : Char} (hslash : c ≠ '/')
    (h : ∀ s ∈ names, c ∉ s) : c ∉ joined names := by
  intro hmem
  obtain ⟨s, hs, hc⟩ := List.mem_flatMap.1 hmem
  rcases List.mem_cons.1 hc with hc | hc
  · exact hslash hc
  · exact h s hs hc

/-- The URL of names. -/
def ofNames (names : List (List Char)) : String := String.ofList (joined names)

variable {names : List (List Char)}

lemma path_ofNames (h : ∀ s ∈ names, IsPlainName s) : path (ofNames names) = ofNames names := by
  apply path_of_plain
  · rw [ofNames, String.toList_ofList]
    exact not_mem_joined (by decide) fun s hs => (h s hs).query
  · rw [ofNames, String.toList_ofList]
    exact not_mem_joined (by decide) fun s hs => (h s hs).fragment

lemma extensionChars?_ofNames (init : List (List Char)) (last : List Char) :
    extensionChars? (ofNames (init ++ [last])).toList = extensionChars? last := by
  rw [ofNames, String.toList_ofList, joined_append, joined_singleton, extensionChars?_slash]

end Url

end Unbundled
