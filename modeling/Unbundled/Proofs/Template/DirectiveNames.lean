import Unbundled.Proofs.Template.Attributes
import Unbundled.Proofs.Text.Split

/-!
# Names of directives

A directive has a name of its own, or it has a short and a long start with an argument behind it.
The argument and the modifiers are separated by dots.
-/

namespace Unbundled.Template

namespace Directive

/-- The directives by the spelling of their names. -/
inductive Spelt : String → Directive → Prop
  | none {name : String} (hname : name ∈ structural) : Spelt name .none
  | html : Spelt "v-html" .html
  | textContent : Spelt "v-text" .textContent
  | bindAll : Spelt "v-bind" .bindAll
  | model {rest : String} {modifiers : List String}
      (hdots : ∀ part ∈ rest :: modifiers, '.' ∉ part.toList) :
      Spelt ("v-model" ++ ".".intercalate (rest :: modifiers)) (.model modifiers)
  | bind {start name : String} {modifiers : List String} (hstart : start ∈ [":", "v-bind:"])
      (hdots : ∀ part ∈ name :: modifiers, '.' ∉ part.toList) :
      Spelt (start ++ ".".intercalate (name :: modifiers)) (.bind name modifiers)
  | on {start event : String} {modifiers : List String} (hstart : start ∈ ["@", "v-on:"])
      (hdots : ∀ part ∈ event :: modifiers, '.' ∉ part.toList) :
      Spelt (start ++ ".".intercalate (event :: modifiers)) (.on event modifiers)
  | plain {name : String} (hname : isFixedName name = true) : Spelt name .plain

lemma dotted_eq_iff {cs : List Char} {part : String} {parts : List String} :
    dotted cs = part :: parts ↔
      String.ofList cs = ".".intercalate (part :: parts) ∧ ∀ p ∈ part :: parts, '.' ∉ p.toList := by
  have hsplit : Text.splitAt (· = '.') cs = cs.splitOn '.' := by
    rw [Text.splitAt_eq_splitOnP, List.splitOn_eq_splitOnP]
    rfl
  constructor
  · intro h
    rw [← h, dotted]
    refine ⟨String.toList_injective ?_, ?_⟩
    · rw [String.toList_ofList, String.toList_intercalate, List.map_map, hsplit]
      simp [Function.comp_def, List.intercalate_splitOn]
    · intro p hp hdot
      obtain ⟨s, hs, rfl⟩ := List.mem_map.1 hp
      rw [String.toList_ofList] at hdot
      simpa using Text.forall_mem_splitAt _ cs s hs '.' hdot
  · rintro ⟨h, hdots⟩
    have hcs : cs = ['.'].intercalate ((part :: parts).map String.toList) := by
      rw [← String.toList_ofList (l := cs), h, String.toList_intercalate]
      rfl
    rw [dotted, hsplit, hcs, List.splitOn_intercalate '.' (by simpa using hdots) (by simp)]
    simp

lemma exists_dotted (cs : List Char) : ∃ part parts, dotted cs = part :: parts := by
  rw [dotted, Text.splitAt_eq_splitOnP]
  exact List.exists_cons_of_ne_nil (by simp [List.splitOnP_ne_nil])

/-- Behind one of these an argument follows. -/
def argumentStarts : List String := ["v-model", ":", "v-bind:", "@", "v-on:"]

lemma ofName_append {start : String} (hstart : start ∈ argumentStarts) {part : String}
    {parts : List String} (hdots : ∀ p ∈ part :: parts, '.' ∉ p.toList) :
    ofName (start ++ ".".intercalate (part :: parts)) =
      if start = "v-model" then .model parts
      else if start ∈ [":", "v-bind:"] then .bind part parts
      else .on part parts := by
  have hstarts : ∀ start ∈ argumentStarts, ∀ s ∈ structural ++ ["v-html", "v-text", "v-bind"],
      ¬ start.toList <+: s.toList := by decide +kernel
  obtain ⟨arg, harg⟩ : ∃ arg, ".".intercalate (part :: parts) = arg := ⟨_, rfl⟩
  have hparts : dotted arg.toList = part :: parts :=
    dotted_eq_iff.2 ⟨by rw [String.ofList_toList, harg], hdots⟩
  have hne : ∀ s ∈ structural ++ ["v-html", "v-text", "v-bind"], start ++ arg ≠ s := by
    rintro s hs rfl
    exact hstarts start hstart _ hs ⟨arg.toList, by rw [String.toList_append]⟩
  rw [List.forall_mem_append, List.forall_mem_cons, List.forall_mem_cons,
    List.forall_mem_cons] at hne
  obtain ⟨hstructural, hhtml, htext, hbind, -⟩ := hne
  have hnot : ¬ structural.contains (start ++ arg) := fun hmem =>
    hstructural _ (List.contains_iff_mem.1 hmem) rfl
  rw [harg, ofName, if_neg hnot, if_neg hhtml, if_neg htext, if_neg hbind]
  simp only [argumentStarts, List.mem_cons, List.not_mem_nil, or_false] at hstart
  obtain rfl | rfl | rfl | rfl | rfl := hstart <;> simp [Text.dropPrefix?, hparts]

lemma ofName_of_spelt {name : String} {d : Directive} (h : Spelt name d) : ofName name = d := by
  cases h with
  | none hname => rw [ofName, if_pos (List.contains_iff_mem.2 hname)]
  | html => decide +kernel
  | textContent => decide +kernel
  | bindAll => decide +kernel
  | model hdots => rw [ofName_append (by decide) hdots, if_pos rfl]
  | bind hstart hdots =>
    have hmodel : ∀ start ∈ [":", "v-bind:"], start ∈ argumentStarts ∧ start ≠ "v-model" := by
      decide
    rw [ofName_append (hmodel _ hstart).1 hdots, if_neg (hmodel _ hstart).2, if_pos hstart]
  | on hstart hdots =>
    have hmodel : ∀ start ∈ ["@", "v-on:"],
        start ∈ argumentStarts ∧ start ≠ "v-model" ∧ start ∉ [":", "v-bind:"] := by decide
    obtain ⟨hmem, hne, hnot⟩ := hmodel _ hstart
    rw [ofName_append hmem hdots, if_neg hne, if_neg hnot]
  | plain hname => exact (ofName_eq_plain_iff _).2 hname

/-- Apart from the names that are refused, the names of each directive are those of its
spellings. -/
lemma ofName_eq_iff {name : String} {d : Directive} (hd : d ≠ .unsupported) :
    ofName name = d ↔ Spelt name d := by
  refine ⟨fun h => ?_, ofName_of_spelt⟩
  by_cases hplain : d = .plain
  · subst hplain
    exact .plain ((ofName_eq_plain_iff name).1 h)
  have harg {starts : List String} {arg : List Char}
      (h : (starts.findSome? fun s => Text.dropPrefix? s.toList name.toList) = some arg) :
      ∃ start ∈ starts, ∃ part parts, dotted arg = part :: parts ∧
        name = start ++ ".".intercalate (part :: parts) ∧ ∀ p ∈ part :: parts, '.' ∉ p.toList := by
    obtain ⟨start, hstart, hdrop⟩ := List.exists_of_findSome?_eq_some h
    obtain ⟨part, parts, hparts⟩ := exists_dotted arg
    obtain ⟨hjoin, hdots⟩ := dotted_eq_iff.1 hparts
    refine ⟨start, hstart, part, parts, hparts, String.toList_injective ?_, hdots⟩
    rw [← hjoin, String.toList_append, String.toList_ofList, Text.dropPrefix?_eq_some hdrop]
  unfold ofName at h
  dsimp only at h
  split at h
  next hmem => exact h ▸ .none (List.contains_iff_mem.1 hmem)
  split at h
  next hname => exact h ▸ hname ▸ .html
  split at h
  next hname => exact h ▸ hname ▸ .textContent
  split at h
  next hname => exact h ▸ hname ▸ .bindAll
  split at h
  next arg hmodel =>
    obtain ⟨start, hstart, part, parts, hparts, rfl, hdots⟩ := harg hmodel
    rw [← h, hparts, List.mem_singleton.1 hstart]
    exact .model hdots
  split at h
  next arg hbind =>
    obtain ⟨start, hstart, part, parts, hparts, rfl, hdots⟩ := harg hbind
    rw [← h, hparts]
    exact .bind hstart hdots
  split at h
  next arg hon =>
    obtain ⟨start, hstart, part, parts, hparts, rfl, hdots⟩ := harg hon
    rw [← h, hparts]
    exact .on hstart hdots
  split at h
  · exact absurd h.symm hd
  · exact absurd h.symm hplain

lemma ofName_eq_none_iff (name : String) : ofName name = .none ↔ name ∈ structural := by
  refine ⟨fun h => ?_, fun hname => ofName_of_spelt (.none hname)⟩
  cases (ofName_eq_iff (by simp)).1 h with
  | none hname => exact hname

end Directive

end Unbundled.Template
