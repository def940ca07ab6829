import Unbundled.Proofs.Template.HandlerText
import Mathlib.Data.List.Infix
import Mathlib.Data.List.Zip

/-!
# Readings of a loop's value

The value of a loop holds an alias and a source, with one of two words between blanks to separate
them. Both parts may hold such words too, so that a value can be read in several ways. The pattern
of a value is blanks, an alias, a gap, a word, a gap, a source that ends with no blank, and blanks.
`readings` lists what it matches in the order of preference, from the left: the alias is as short as
it can be, all other parts are as long as they can be. The scan finds the first of these readings.
-/

namespace Unbundled.Template

open Text (isPatternBlank dropRightWhile)

/-- The words that separate an alias from a source. -/
def loopWords : List (List Char) := [['i', 'n'], ['o', 'f']]

/-- At least one blank, and nothing else. -/
def isGap (cs : List Char) : Bool := !cs.isEmpty && cs.all isPatternBlank

/-- The ways to cut a text in two, the shortest front first. -/
def cuts (cs : List Char) : List (List Char × List Char) := cs.inits.zip cs.tails

/-- The cuts behind a front of one kind, the longest front first. -/
def longest (p : List Char → Bool) (cs : List Char) : List (List Char × List Char) :=
  (cuts cs).reverse.filter (p ·.1)

/-- The sources that reach from the start of a text to blanks at its end. -/
def sourcesAt (cs : List Char) : List (List Char) :=
  ((longest (·.getLast?.any (!isPatternBlank ·)) cs).filter (·.2.all isPatternBlank)).map Prod.fst

/-- The sources behind a word, with which the text starts, and a gap. -/
def sourcesBehind (word cs : List Char) : List (List Char) :=
  (Text.dropPrefix? word cs).toList.flatMap fun cs => (longest isGap cs).flatMap (sourcesAt ·.2)

/-- The sources behind a separator, which is a word between gaps. -/
def separatedSources (cs : List Char) : List (List Char) :=
  (longest isGap cs).flatMap fun before => loopWords.flatMap (sourcesBehind · before.2)

/-- The alias and the source in each reading of a value, the preferred one first. -/
def readings (value : List Char) : List (List Char × List Char) :=
  (longest (·.all isPatternBlank) value).flatMap fun front =>
    (cuts front.2).flatMap fun cut => (separatedSources cut.2).map (cut.1, ·)

/-! ## Parts of a reading -/

lemma isGap_iff {cs : List Char} : isGap cs ↔ cs ≠ [] ∧ cs.all isPatternBlank := by
  simp [isGap]

lemma loopWord_cases {word : List Char} (h : word ∈ loopWords) :
    word ≠ [] ∧ ∀ c ∈ word, isPatternBlank c = false := by
  have hwords : ∀ word ∈ loopWords, word ≠ [] ∧ word.all (!isPatternBlank ·) := by decide
  obtain ⟨hsome, hvisible⟩ := hwords word h
  exact ⟨hsome, by simpa using hvisible⟩

@[simp] lemma mem_cuts {cs front rest : List Char} :
    (front, rest) ∈ cuts cs ↔ cs = front ++ rest := by
  rw [cuts, List.mem_zip_inits_tails, eq_comm]

lemma cuts_cons (c : Char) (cs : List Char) :
    cuts (c :: cs) = ([], c :: cs) :: (cuts cs).map fun cut => (c :: cut.1, cut.2) := by
  rw [cuts, List.inits_cons, List.tails_cons, List.zip_cons_cons, List.zip_map_left]
  rfl

@[simp] lemma mem_longest {p : List Char → Bool} {cs front rest : List Char} :
    (front, rest) ∈ longest p cs ↔ cs = front ++ rest ∧ p front := by
  rw [longest, List.mem_filter, List.mem_reverse, mem_cuts]

lemma longest_nil (p : List Char → Bool) : longest p [] = if p [] then [([], [])] else [] := by
  by_cases h : p [] <;> simp [longest, cuts, h]

lemma longest_cons (p : List Char → Bool) (c : Char) (cs : List Char) :
    longest p (c :: cs) =
      (longest (p <| c :: ·) cs).map (fun cut => (c :: cut.1, cut.2)) ++
        if p [] then [([], c :: cs)] else [] := by
  rw [longest, cuts_cons, List.reverse_cons, List.filter_append, ← List.map_reverse,
    List.filter_map, longest]
  by_cases h : p [] <;> simp [h, Function.comp_def]

lemma longest_gap_cons (c : Char) (cs : List Char) : longest isGap (c :: cs) =
    if isPatternBlank c then
      (longest (·.all isPatternBlank) cs).map fun cut => (c :: cut.1, cut.2)
    else [] := by
  have hcons (blanks : List Char) : isGap (c :: blanks) =
      (isPatternBlank c && blanks.all isPatternBlank) := by
    rw [isGap, List.all_cons, List.isEmpty_cons, Bool.not_false, Bool.true_and]
  rw [longest_cons, if_neg (by decide), List.append_nil]
  by_cases hc : isPatternBlank c
  · simp only [hcons, hc, Bool.true_and, if_true]
  · simp [hcons, hc, longest]

/-- Where blanks that stay do not help, taking off all of them decides. -/
lemma findSome?_longest_blank {α : Type} {f : List Char → Option α} (cs : List Char)
    (h : ∀ b rest, isPatternBlank b → f (rest.dropWhile isPatternBlank) = none →
      f (b :: rest) = none) :
    (longest (·.all isPatternBlank) cs).findSome? (f ·.2) = f (cs.dropWhile isPatternBlank) := by
  induction cs with
  | nil => simp [longest_nil]
  | cons c cs ih =>
    rw [longest_cons, List.findSome?_append, List.findSome?_map]
    by_cases hc : isPatternBlank c
    · rw [List.dropWhile_cons_of_pos hc]
      simp only [List.all_cons, hc, Bool.true_and, Function.comp_def]
      rw [ih]
      cases hf : f (cs.dropWhile isPatternBlank) with
      | none => simpa using h c cs hc hf
      | some a => rfl
    · rw [List.dropWhile_cons_of_neg hc]
      simp [hc, longest]

lemma getLast?_any_iff {p : Char → Bool} {cs : List Char} :
    cs.getLast?.any (!p ·) ↔ cs ≠ [] ∧ ∀ c ∈ cs.getLast?, p c = false := by
  rcases List.eq_nil_or_concat cs with rfl | ⟨front, c, rfl⟩
  · simp
  · simp

/-- There is one source, up to the blanks at the end. -/
lemma mem_sourcesAt {cs source : List Char} :
    source ∈ sourcesAt cs ↔ source ≠ [] ∧ dropRightWhile isPatternBlank cs = source := by
  simp only [sourcesAt, List.mem_map, List.mem_filter, Prod.exists, mem_longest, getLast?_any_iff,
    exists_and_right, exists_eq_right, Text.dropRightWhile_eq_iff]
  constructor
  · rintro ⟨back, ⟨hcs, hsome, hlast⟩, hback⟩
    exact ⟨hsome, back, hcs, hback, hlast⟩
  · rintro ⟨hsome, back, hcs, hback, hlast⟩
    exact ⟨back, ⟨hcs, hsome, hlast⟩, hback⟩

lemma head?_sourcesAt (cs : List Char) : (sourcesAt cs).head? =
    if dropRightWhile isPatternBlank cs = [] then none
    else some (dropRightWhile isPatternBlank cs) := by
  cases hsources : sourcesAt cs with
  | nil =>
    split
    next => rfl
    next hsome =>
      have hmem := mem_sourcesAt.2 ⟨hsome, rfl⟩
      rw [hsources] at hmem
      cases hmem
  | cons source others =>
    have hmem : source ∈ sourcesAt cs := hsources ▸ List.mem_cons_self
    obtain ⟨hsome, hsource⟩ := mem_sourcesAt.1 hmem
    rw [hsource, if_neg hsome, List.head?_cons]

lemma sourcesAt_eq_nil_iff {cs : List Char} : sourcesAt cs = [] ↔ cs.all isPatternBlank := by
  rw [← List.head?_eq_none_iff, head?_sourcesAt, ite_eq_left_iff, imp_iff_not (by simp), not_not,
    Text.dropRightWhile_eq_iff]
  simp

/-! ## What the scan finds -/

lemma head?_sourcesBehind (word cs : List Char) : (sourcesBehind word cs).head? =
    (dropWordAndBlank? word cs).bind fun cs => (sourcesAt cs).head? := by
  rw [sourcesBehind, dropWordAndBlank?]
  cases Text.dropPrefix? word cs with
  | none => rfl
  | some rest =>
    cases rest with
    | nil => rfl
    | cons c rest =>
      rw [Option.toList_some, List.flatMap_singleton, longest_gap_cons]
      dsimp only
      by_cases hc : isPatternBlank c
      · rw [if_pos hc, if_pos hc, List.head?_flatMap, List.findSome?_map]
        apply findSome?_longest_blank (f := fun cs => (sourcesAt cs).head?)
        intro b rest hb hnone
        rw [List.head?_eq_none_iff, sourcesAt_eq_nil_iff] at hnone ⊢
        obtain ⟨blanks, hrest, hblanks, -⟩ := Text.dropWhile_eq_iff.1 (rfl : rest.dropWhile _ = _)
        rw [List.all_cons, hb, hrest, List.all_append, hblanks, hnone]
        rfl
      · rw [if_neg hc, if_neg hc]
        rfl

lemma sourcesBehind_blank {word : List Char} (h : word ∈ loopWords) {b : Char}
    (hb : isPatternBlank b) (rest : List Char) : sourcesBehind word (b :: rest) = [] := by
  obtain ⟨hsome, hvisible⟩ := loopWord_cases h
  have hnone : Text.dropPrefix? word (b :: rest) = none := by
    apply Text.dropPrefix?_eq_none
    intro hprefix
    obtain ⟨w, ws, rfl⟩ := List.exists_cons_of_ne_nil hsome
    obtain ⟨rfl, -⟩ := List.cons_prefix_cons.1 hprefix
    rw [hvisible w List.mem_cons_self] at hb
    cases hb
  rw [sourcesBehind, hnone]
  rfl

/-- A text starts with one of the words only. -/
lemma one_loopWord (cs : List Char) :
    dropWordAndBlank? ['i', 'n'] cs = none ∨ dropWordAndBlank? ['o', 'f'] cs = none := by
  cases hin : dropWordAndBlank? ['i', 'n'] cs with
  | none => exact .inl rfl
  | some rest =>
    obtain ⟨gap, rfl, -⟩ := dropWordAndBlank?_eq_some_iff.1 hin
    exact .inr rfl

lemma head?_loopWords (cs : List Char) : (loopWords.flatMap (sourcesBehind · cs)).head? =
    ((dropWordAndBlank? ['i', 'n'] cs).or (dropWordAndBlank? ['o', 'f'] cs)).bind
      fun cs => (sourcesAt cs).head? := by
  rw [loopWords, List.flatMap_cons, List.flatMap_singleton, List.head?_append,
    head?_sourcesBehind, head?_sourcesBehind]
  obtain hin | hof := one_loopWord cs
  · rw [hin, Option.bind_none, Option.none_or, Option.none_or]
  · rw [hof, Option.bind_none, Option.or_none, Option.or_none]

lemma loopSource?_eq_head? (cs : List Char) : loopSource? cs = (separatedSources cs).head? := by
  cases cs with
  | nil => rfl
  | cons c cs =>
    rw [separatedSources, longest_gap_cons]
    unfold loopSource?
    by_cases hc : isPatternBlank c
    · have hall := findSome?_longest_blank (f := fun cs =>
        (loopWords.flatMap (sourcesBehind · cs)).head?) cs fun b rest hb _ => by
          rw [List.flatMap_eq_nil_iff.2 fun word h => sourcesBehind_blank h hb rest]
          rfl
      rw [if_pos hc, List.head?_flatMap, List.findSome?_map, List.dropWhile_cons_of_pos hc]
      refine Eq.trans ?_ hall.symm
      rw [head?_loopWords]
      simp only [hc, Bool.not_true, Bool.false_eq_true, if_false]
      cases (dropWordAndBlank? ['i', 'n'] (cs.dropWhile isPatternBlank)).or
        (dropWordAndBlank? ['o', 'f'] (cs.dropWhile isPatternBlank)) with
      | none => rfl
      | some rest =>
        rw [Option.map_some, Option.bind_some, head?_sourcesAt]
        cases dropRightWhile isPatternBlank rest <;> rfl
    · simp [hc]

lemma splitLoopFrom?_cons (before : List Char) (c : Char) (cs : List Char) :
    splitLoopFrom? before (c :: cs) =
      ((loopSource? (c :: cs)).map (before.reverse, ·)).or (splitLoopFrom? (c :: before) cs) := by
  conv_lhs => unfold splitLoopFrom?
  cases loopSource? (c :: cs) with
  | none => rfl
  | some source => rfl

lemma splitLoopFrom?_eq_findSome? (before cs : List Char) : splitLoopFrom? before cs =
    (cuts cs).findSome? fun cut => (loopSource? cut.2).map (before.reverse ++ cut.1, ·) := by
  induction cs generalizing before with
  | nil => rfl
  | cons c cs ih =>
    rw [splitLoopFrom?_cons, ih, cuts_cons, List.findSome?_cons, List.findSome?_map]
    cases loopSource? (c :: cs) with
    | some source => simp
    | none => simp [Function.comp_def]

lemma splitLoopFrom?_eq_none_iff {before cs : List Char} : splitLoopFrom? before cs = none ↔
    ∀ front rest, cs = front ++ rest → loopSource? rest = none := by
  rw [splitLoopFrom?_eq_findSome?, List.findSome?_eq_none_iff]
  simp

lemma loopSource?_blank {b : Char} {cs source : List Char} (hb : isPatternBlank b)
    (h : loopSource? cs = some source) : loopSource? (b :: cs) = some source := by
  cases cs with
  | nil => cases h
  | cons c cs =>
    unfold loopSource? at h ⊢
    cases hc : isPatternBlank c with
    | false => simp [hc] at h
    | true =>
      rw [List.dropWhile_cons_of_pos hb]
      simpa [hb, hc] using h

lemma loopSource?_blanks {blanks cs source : List Char} (hblanks : blanks.all isPatternBlank)
    (h : loopSource? cs = some source) : loopSource? (blanks ++ cs) = some source := by
  induction blanks with
  | nil => exact h
  | cons b blanks ih =>
    rw [List.all_cons, Bool.and_eq_true] at hblanks
    exact loopSource?_blank hblanks.1 (ih hblanks.2)

/-- Where nothing is found behind all blanks at the start, the value can only begin with a
separator. -/
lemma splitLoopFrom?_blank {b : Char} {cs : List Char} (hb : isPatternBlank b)
    (h : splitLoopFrom? [] (cs.dropWhile isPatternBlank) = none) :
    splitLoopFrom? [] (b :: cs) = (loopSource? (b :: cs)).map ([], ·) := by
  rw [splitLoopFrom?_cons]
  cases hsource : loopSource? (b :: cs) with
  | some source => rfl
  | none =>
    rw [Option.map_none, Option.none_or]
    refine splitLoopFrom?_eq_none_iff.2 fun front rest hcs => ?_
    obtain ⟨blanks, hblank, hblanks, -⟩ :=
      Text.dropWhile_eq_iff.1 (rfl : cs.dropWhile isPatternBlank = _)
    have hcuts := hcs.symm.trans hblank
    rw [List.append_eq_append_iff] at hcuts
    obtain ⟨more, rfl, hrest⟩ | ⟨more, rfl, hrest⟩ := hcuts
    · -- a separator among the blanks would also be found from the first of them on
      cases hfound : loopSource? rest with
      | none => rfl
      | some source =>
        rw [List.all_append, Bool.and_eq_true] at hblanks
        have hfront : (b :: front).all isPatternBlank := by
          rw [List.all_cons, hb, hblanks.1]
          rfl
        rw [hcs, ← List.cons_append, loopSource?_blanks hfront hfound] at hsource
        cases hsource
    · exact splitLoopFrom?_eq_none_iff.1 h more rest hrest

/-- Blanks at the start are not part of the separator, unless there is no other reading. -/
lemma findSome?_front (cs : List Char) :
    (longest (·.all isPatternBlank) cs).findSome? (splitLoopFrom? [] ·.2) =
      (splitLoopFrom? [] (cs.dropWhile isPatternBlank)).or ((loopSource? cs).map ([], ·)) := by
  induction cs with
  | nil => rfl
  | cons c cs ih =>
    rw [longest_cons, List.findSome?_append, List.findSome?_map]
    by_cases hc : isPatternBlank c
    · rw [List.dropWhile_cons_of_pos hc]
      simp only [List.all_cons, hc, Bool.true_and, Function.comp_def, List.all_nil, if_true,
        List.findSome?_singleton]
      rw [ih, Option.or_assoc]
      cases hfound : splitLoopFrom? [] (cs.dropWhile isPatternBlank) with
      | some parts => rfl
      | none =>
        rw [splitLoopFrom?_blank hc hfound]
        cases hsource : loopSource? cs with
        | none => rfl
        | some source =>
          rw [loopSource?_blank hc hsource]
          rfl
    · rw [List.dropWhile_cons_of_neg hc]
      simp [hc, longest, loopSource?]

/-- The scan finds the preferred reading. -/
theorem splitLoop?_eq_head?_readings (value : String) : splitLoop? value =
    (readings value.toList).head?.map fun reading =>
      (Text.trim (String.ofList reading.1), String.ofList reading.2) := by
  have hscan (cs : List Char) :
      ((cuts cs).flatMap fun cut => (separatedSources cut.2).map (cut.1, ·)).head? =
        splitLoopFrom? [] cs := by
    rw [List.head?_flatMap, splitLoopFrom?_eq_findSome?]
    simp only [List.head?_map, loopSource?_eq_head?, List.reverse_nil, List.nil_append]
  rw [readings, List.head?_flatMap, splitLoop?]
  simp only [hscan, findSome?_front]

-- the second word would be a separator too, if the first were not
example : readings "a in b of c".toList =
    [("a".toList, "b of c".toList), ("a in b".toList, "c".toList)] := by decide

end Unbundled.Template
