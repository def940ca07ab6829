import Unbundled.Path
import Unbundled.Proofs.Text.Split

/-!
# Paths below a directory

A directory can be extended by names. Such a path has the components of the directory and the names
behind them, however the directory is spelled.
-/

namespace Unbundled

namespace Path

/-- A segment that names an entry of a directory. -/
structure IsName (s : List Char) : Prop where
  ne_nil : s ≠ []
  ne_here : s ≠ ['.']
  ne_up : s ≠ ['.', '.']
  slash : '/' ∉ s

instance decidableIsName (s : List Char) : Decidable (IsName s) :=
  decidable_of_iff (s ≠ [] ∧ s ≠ ['.'] ∧ s ≠ ['.', '.'] ∧ '/' ∉ s)
    ⟨fun ⟨hnil, hhere, hup, hslash⟩ => ⟨hnil, hhere, hup, hslash⟩,
      fun h => ⟨h.ne_nil, h.ne_here, h.ne_up, h.slash⟩⟩

/-- The component that a name is. -/
def named (s : List Char) : Component := .name (String.ofList s)

/-- The directory with one name after the other appended to it. -/
def extend (base : Path) (names : List (List Char)) : Path :=
  names.foldl (fun dir s => dir.join (ofChars s)) base

/-- Read lexically, `file` is `base` or lies below it. -/
def IsBelow (base file : Path) : Prop :=
  ∃ names : List (List Char), (∀ s ∈ names, IsName s) ∧
    file.components = base.components ++ names.map named

/-! ## Components of what is put together -/

lemma ofChars_toList (p : Path) : ofChars p.text.toList = p := by
  rw [ofChars, String.ofList_toList]

lemma toList_ofChars (cs : List Char) : (ofChars cs).text.toList = cs := String.toList_ofList

lemma segments_ofChars (cs : List Char) : (ofChars cs).segments = cs.splitOnP (· = '/') := by
  rw [segments, toList_ofChars, Text.splitAt_eq_splitOnP]

lemma segments_eq_splitOn (p : Path) : p.segments = p.text.toList.splitOn '/' := by
  rw [segments, Text.splitAt_eq_splitOnP, List.splitOn_eq_splitOnP]
  rfl

lemma segments_slash (as bs : List Char) :
    (ofChars (as ++ '/' :: bs)).segments = (ofChars as).segments ++ (ofChars bs).segments := by
  rw [segments_ofChars, segments_ofChars, segments_ofChars, List.splitOnP_append_cons as bs (by simp)]

lemma segments_name {s : List Char} (hs : IsName s) : (ofChars s).segments = [s] := by
  rw [segments_ofChars, List.splitOnP_eq_singleton]
  intro c hc
  rw [decide_eq_false_iff_not]
  rintro rfl
  exact hs.slash hc

lemma isAbsolute_ofChars (cs : List Char) : (ofChars cs).isAbsolute ↔ cs.head? = some '/' := by
  rw [isAbsolute, toList_ofChars]
  cases cs with
  | nil => simp
  | cons c cs =>
    by_cases hc : c = '/'
    · simp [hc]
    · simp [hc]

lemma components_of_segments {p : Path} {s : List Char} {rest : List (List Char)}
    (h : p.segments = s :: rest) :
    p.components = (firstComponent? p.isAbsolute s).toList ++ rest.filterMap innerComponent? := by
  rw [components, h]

lemma firstComponent?_name {s : List Char} (hs : IsName s) :
    firstComponent? false s = some (named s) := by
  rw [firstComponent?, if_neg Bool.false_ne_true, if_neg hs.ne_here, innerComponent?,
    if_neg (not_or.2 ⟨hs.ne_nil, hs.ne_here⟩), if_neg hs.ne_up, named]

lemma innerComponent?_name {s : List Char} (hs : IsName s) :
    innerComponent? s = some (named s) := by
  rw [innerComponent?, if_neg (not_or.2 ⟨hs.ne_nil, hs.ne_here⟩), if_neg hs.ne_up, named]

lemma exists_segments (p : Path) : ∃ s rest, p.segments = s :: rest := by
  rw [segments, Text.splitAt_eq_splitOnP]
  exact List.exists_cons_of_ne_nil (List.splitOnP_ne_nil _ _)

lemma isAbsolute_slash (as bs : List Char) :
    (ofChars (as ++ '/' :: bs)).isAbsolute = (ofChars (as ++ ['/'])).isAbsolute := by
  rw [Bool.eq_iff_iff, isAbsolute_ofChars, isAbsolute_ofChars]
  cases as <;> simp

/-- Behind a slash no segment is the first one. -/
lemma components_slash_append (as bs : List Char) : (ofChars (as ++ '/' :: bs)).components =
    (ofChars (as ++ ['/'])).components ++ (ofChars bs).segments.filterMap innerComponent? := by
  obtain ⟨t, ts, hsegments⟩ := exists_segments (ofChars as)
  have hfull : (ofChars (as ++ '/' :: bs)).segments = t :: (ts ++ (ofChars bs).segments) := by
    rw [segments_slash, hsegments, List.cons_append]
  have hbare : (ofChars (as ++ ['/'])).segments = t :: (ts ++ [[]]) := by
    rw [segments_slash, hsegments, segments_ofChars, List.splitOnP_nil, List.cons_append]
  rw [components_of_segments hfull, components_of_segments hbare, isAbsolute_slash,
    List.filterMap_append, List.filterMap_append]
  simp [innerComponent?]

lemma components_slash {as : List Char} (has : as ≠ []) :
    (ofChars (as ++ ['/'])).components = (ofChars as).components := by
  obtain ⟨t, ts, hsegments⟩ := exists_segments (ofChars as)
  have hslash : (ofChars (as ++ ['/'])).segments = t :: (ts ++ [[]]) := by
    rw [segments_slash, hsegments, segments_ofChars, List.splitOnP_nil, List.cons_append]
  have habsolute : (ofChars (as ++ ['/'])).isAbsolute = (ofChars as).isAbsolute := by
    obtain ⟨a, as, rfl⟩ := List.exists_cons_of_ne_nil has
    rw [Bool.eq_iff_iff, isAbsolute_ofChars, isAbsolute_ofChars, List.cons_append, List.head?_cons,
      List.head?_cons]
  rw [components_of_segments hslash, components_of_segments hsegments, habsolute,
    List.filterMap_append]
  simp [innerComponent?]

lemma not_isAbsolute_name {s : List Char} (hs : IsName s) : (ofChars s).isAbsolute = false := by
  rw [Bool.eq_false_iff, Ne, isAbsolute_ofChars]
  exact fun hhead => hs.slash (List.mem_of_mem_head? hhead)

lemma components_name {s : List Char} (hs : IsName s) : (ofChars s).components = [named s] := by
  rw [components_of_segments (segments_name hs), not_isAbsolute_name hs, firstComponent?_name hs]
  rfl

/-! ## Names behind a directory -/

lemma join_relative (cs : List Char) {p : Path} (hp : p.isAbsolute = false) :
    (ofChars cs).join p = ofChars (if cs = [] ∨ cs.getLast? = some '/' then cs ++ p.text.toList
      else cs ++ '/' :: p.text.toList) := by
  have hempty : (ofChars cs).text = "" ↔ cs = [] := by
    rw [ofChars, String.ext_iff, String.toList_ofList]
    rfl
  have happend (as : List Char) : ofChars (as ++ p.text.toList) = ⟨String.ofList as ++ p.text⟩ := by
    rw [ofChars, String.ofList_append, String.ofList_toList]
  rw [join, hp, if_neg Bool.false_ne_true, toList_ofChars]
  by_cases hend : cs = [] ∨ cs.getLast? = some '/'
  · rw [if_pos hend, if_pos (or_congr_left hempty |>.2 hend), happend, ofChars]
  · rw [if_neg hend, if_neg (mt (or_congr_left hempty).1 hend), ← List.singleton_append,
      ← List.append_assoc, happend, String.ofList_append, ofChars]

/-- A relative path behind a directory adds the components of its segments. -/
lemma components_join_relative {dir p : Path} (hdir : dir.text ≠ "") (hp : p.isAbsolute = false) :
    (dir.join p).components = dir.components ++ p.segments.filterMap innerComponent? := by
  obtain ⟨cs, rfl⟩ : ∃ cs, dir = ofChars cs := ⟨_, (ofChars_toList dir).symm⟩
  obtain ⟨bs, rfl⟩ : ∃ bs, p = ofChars bs := ⟨_, (ofChars_toList p).symm⟩
  rw [join_relative cs hp, toList_ofChars]
  rcases List.eq_nil_or_concat cs with rfl | ⟨as, a, hcs⟩
  · exact absurd rfl hdir
  · rw [List.concat_eq_append] at hcs
    subst hcs
    have hne : as ++ [a] ≠ [] := by simp
    by_cases ha : a = '/'
    · -- the slash is there already
      subst ha
      rw [if_pos (.inr (by simp)), List.append_assoc, List.singleton_append,
        components_slash_append as]
    · rw [if_neg (by simp [ha]), components_slash_append, components_slash hne]

/-- A name that is appended to a directory is one more component. -/
lemma components_join (dir : Path) {s : List Char} (hs : IsName s) :
    (dir.join (ofChars s)).components = dir.components ++ [named s] := by
  by_cases hdir : dir.text = ""
  · have hempty : dir = ofChars [] := by rw [← ofChars_toList dir, hdir]; rfl
    have hcomponents : (ofChars []).components = [] := by decide
    rw [hempty, join_relative [] (not_isAbsolute_name hs), if_pos (.inl rfl), List.nil_append,
      ofChars_toList, components_name hs, hcomponents, List.nil_append]
  · rw [components_join_relative hdir (not_isAbsolute_name hs), segments_name hs,
      List.filterMap_cons_some (innerComponent?_name hs), List.filterMap_nil]

lemma text_join_ne {dir : Path} (hdir : dir.text ≠ "") (p : Path) : (dir.join p).text ≠ "" := by
  rw [join]
  by_cases hp : p.isAbsolute
  · rw [if_pos hp]
    intro hempty
    rw [isAbsolute, hempty] at hp
    cases hp
  · rw [if_neg hp]
    split
    · exact fun hempty => hdir (String.append_eq_empty_iff.1 hempty).1
    · rw [String.append_assoc]
      exact fun hempty => hdir (String.append_eq_empty_iff.1 hempty).1

lemma text_extend_ne {base : Path} (hbase : base.text ≠ "") (names : List (List Char)) :
    (base.extend names).text ≠ "" := by
  induction names generalizing base with
  | nil => exact hbase
  | cons s names ih => exact ih (text_join_ne hbase (ofChars s))

/-- A directory that has been extended by names has these behind its components. -/
lemma components_extend (base : Path) {names : List (List Char)} (h : ∀ s ∈ names, IsName s) :
    (base.extend names).components = base.components ++ names.map named := by
  induction names generalizing base with
  | nil => exact (List.append_nil _).symm
  | cons s names ih =>
    rw [List.forall_mem_cons] at h
    have hstep : base.extend (s :: names) = (base.join (ofChars s)).extend names := rfl
    rw [hstep, ih _ h.2, components_join base h.1, List.append_assoc, List.map_cons,
      List.singleton_append]

lemma isBelow_extend (base : Path) {names : List (List Char)} (h : ∀ s ∈ names, IsName s) :
    IsBelow base (base.extend names) :=
  ⟨names, h, components_extend base h⟩

end Path

end Unbundled
