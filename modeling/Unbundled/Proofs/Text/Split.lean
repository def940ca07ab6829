import Unbundled.Text.Split
import Mathlib.Tactic.Lemma

/-!
# Cutting texts that have been put together

Where a text has been put together around a separator, cutting it there gives back its parts.
-/

namespace Unbundled.Text

variable {α : Type}

lemma dropWhile_append_stop {p : α → Bool} {xs ys : List α} (hxs : xs.all p)
    (hys : ∀ c ∈ ys.head?, p c = false) : (xs ++ ys).dropWhile p = ys := by
  rw [List.dropWhile_append_of_pos (List.all_eq_true.1 hxs)]
  cases ys with
  | nil => rfl
  | cons y ys => rw [List.dropWhile_cons_of_neg (by simp [hys y rfl])]

lemma takeWhile_append_stop {p : α → Bool} {xs ys : List α} (hxs : xs.all p)
    (hys : ∀ c ∈ ys.head?, p c = false) : (xs ++ ys).takeWhile p = xs := by
  rw [List.takeWhile_append_of_pos (List.all_eq_true.1 hxs)]
  cases ys with
  | nil => simp
  | cons y ys => rw [List.takeWhile_cons_of_neg (by simp [hys y rfl]), List.append_nil]

lemma dropWhile_eq_iff {p : Char → Bool} {cs rest : List Char} : cs.dropWhile p = rest ↔
    ∃ xs, cs = xs ++ rest ∧ xs.all p ∧ ∀ c ∈ rest.head?, p c = false := by
  constructor
  · rintro rfl
    refine ⟨cs.takeWhile p, List.takeWhile_append_dropWhile.symm, List.all_takeWhile, ?_⟩
    intro c hc
    have hnot := List.head?_dropWhile_not p cs
    rw [Option.mem_def] at hc
    rw [hc] at hnot
    simpa using hnot
  · rintro ⟨xs, rfl, hxs, hrest⟩
    exact dropWhile_append_stop hxs hrest

lemma dropWhile_ne_eq_cons_iff {q c : Char} {cs rest : List Char} :
    cs.dropWhile (fun d => decide (d ≠ q)) = c :: rest ↔
      c = q ∧ ∃ xs, cs = xs ++ q :: rest ∧ q ∉ xs := by
  rw [dropWhile_eq_iff]
  constructor
  · rintro ⟨xs, rfl, hxs, hstop⟩
    obtain rfl : c = q := by simpa using hstop
    exact ⟨rfl, xs, rfl, fun hmem => by simpa using List.all_eq_true.1 hxs c hmem⟩
  · rintro ⟨rfl, xs, rfl, hxs⟩
    refine ⟨xs, rfl, List.all_eq_true.2 fun d hd => decide_eq_true fun heq => ?_, by simp⟩
    exact hxs (heq ▸ hd)

lemma dropWhile_dropWhile {p q : Char → Bool} (hpq : ∀ c, p c → q c) (cs : List Char) :
    (cs.dropWhile p).dropWhile q = cs.dropWhile q := by
  induction cs with
  | nil => rfl
  | cons c cs ih =>
    by_cases hc : p c
    · rw [List.dropWhile_cons_of_pos hc, List.dropWhile_cons_of_pos (hpq c hc), ih]
    · rw [List.dropWhile_cons_of_neg hc]

/-! ## Patterns -/

lemma dropPrefix?_append (pat rest : List Char) : dropPrefix? pat (pat ++ rest) = some rest := by
  induction pat with
  | nil => rfl
  | cons p ps ih => rw [List.cons_append, dropPrefix?, if_pos rfl, ih]

lemma dropPrefix?_eq_none {pat cs : List Char} (h : ¬ pat <+: cs) : dropPrefix? pat cs = none := by
  cases hdrop : dropPrefix? pat cs with
  | none => rfl
  | some rest => exact absurd ⟨rest, (dropPrefix?_eq_some hdrop).symm⟩ h

lemma startsWith_iff {pat cs : List Char} : startsWith pat cs ↔ ∃ rest, cs = pat ++ rest := by
  rw [startsWith, Option.isSome_iff_exists]
  constructor
  · exact fun ⟨rest, h⟩ => ⟨rest, dropPrefix?_eq_some h⟩
  · exact fun ⟨rest, h⟩ => ⟨rest, h ▸ dropPrefix?_append pat rest⟩

/-- Two texts that begin differently are not both at the start of a third one. -/
lemma startsWith_eq_false {a b : Char} {as bs cs : List Char} (hab : a ≠ b)
    (h : startsWith (b :: bs) cs) : startsWith (a :: as) cs = false := by
  obtain ⟨rest, rfl⟩ := startsWith_iff.1 h
  rw [startsWith, List.cons_append, dropPrefix?, if_neg hab]
  rfl

lemma splitFrom?_append {pat as rest : List Char} (hpat : pat ≠ [])
    (h : ∀ xs ys, as = xs ++ ys → ys ≠ [] → ¬ pat <+: ys ++ pat ++ rest) (before : List Char) :
    splitFrom? pat before (as ++ pat ++ rest) = some (before.reverse ++ as, rest) := by
  induction as generalizing before with
  | nil =>
    obtain ⟨p, ps, rfl⟩ := List.exists_cons_of_ne_nil hpat
    have hdrop := dropPrefix?_append (p :: ps) rest
    rw [List.cons_append] at hdrop
    rw [List.nil_append, List.cons_append, splitFrom?, hdrop, List.append_nil]
  | cons a as ih =>
    have hnone : dropPrefix? pat (a :: (as ++ pat ++ rest)) = none :=
      dropPrefix?_eq_none (h [] (a :: as) rfl (by simp))
    have hlater : ∀ xs ys, as = xs ++ ys → ys ≠ [] → ¬ pat <+: ys ++ pat ++ rest :=
      fun xs ys has => h (a :: xs) ys (by rw [has]; rfl)
    rw [List.cons_append, List.cons_append, splitFrom?, hnone]
    simpa using ih hlater (a :: before)

/-- A text is cut at the pattern that has been put into it, when no earlier place looks like it. -/
lemma splitOnce?_append {pat as rest : List Char} (hpat : pat ≠ [])
    (h : ∀ xs ys, as = xs ++ ys → ys ≠ [] → ¬ pat <+: ys ++ pat ++ rest) :
    splitOnce? pat (as ++ pat ++ rest) = some (as, rest) :=
  splitFrom?_append hpat h []

/-- In front of its first occurrence, a pattern begins nowhere. -/
lemma not_prefix_of_first {pat as : List Char} (hpat : pat ≠ [])
    (h : ¬ pat <:+: as ++ pat.dropLast) (rest : List Char) :
    ∀ xs ys, as = xs ++ ys → ys ≠ [] → ¬ pat <+: ys ++ pat ++ rest := by
  intro xs ys has hys hstart
  -- behind at least one character of the text, the pattern ends before its own last character
  have hlength : pat.length ≤ (ys ++ pat.dropLast).length := by
    have := List.length_pos_iff.2 hys
    rw [List.length_append, List.length_dropLast]
    omega
  have hcut : ys ++ pat.dropLast ++ (pat.getLast hpat :: rest) = ys ++ pat ++ rest := by
    rw [List.append_cons, List.append_assoc ys, List.dropLast_concat_getLast]
  rw [← hcut] at hstart
  obtain ⟨zs, hzs⟩ := List.prefix_of_prefix_length_le hstart (List.prefix_append _ _) hlength
  exact h ⟨xs, zs, by rw [has, List.append_assoc, List.append_assoc, hzs]⟩

/-- A text is cut at the pattern that has been put behind it, when it is not found before it is
complete. -/
lemma splitOnce?_first {pat as : List Char} (hpat : pat ≠ [])
    (h : ¬ pat <:+: as ++ pat.dropLast) (rest : List Char) :
    splitOnce? pat (as ++ pat ++ rest) = some (as, rest) :=
  splitOnce?_append hpat (not_prefix_of_first hpat h rest)

/-- A pattern does not reach over a character that it does not have. -/
lemma prefix_of_stop {pat ys rest : List Char} {c : Char} (h : pat <+: ys ++ c :: rest)
    (hc : c ∉ pat) : pat <+: ys := by
  rcases List.prefix_or_prefix_of_prefix h (List.prefix_append ys (c :: rest)) with hys | hys
  · exact hys
  · obtain ⟨more, rfl⟩ := hys
    rw [List.prefix_append_right_inj] at h
    cases more with
    | nil => simp
    | cons m more =>
      obtain ⟨t, ht⟩ := h
      rw [List.cons_append, List.cons.injEq] at ht
      simp [ht.1] at hc

/-- Where the first character of a pattern does not occur in it again, the pattern is first found
behind a text that is free of it. -/
lemma splitOnce?_behind {p : Char} {ps as : List Char} (hp : p ∉ ps) (h : ¬ p :: ps <:+: as)
    (rest : List Char) : splitOnce? (p :: ps) (as ++ p :: ps ++ rest) = some (as, rest) := by
  apply splitOnce?_append (by simp)
  intro xs ys has hys hstart
  obtain ⟨y, ys, rfl⟩ := List.exists_cons_of_ne_nil hys
  rw [List.append_assoc, List.cons_append, List.cons_prefix_cons] at hstart
  obtain ⟨rfl, hstart⟩ := hstart
  obtain ⟨zs, rfl⟩ := prefix_of_stop hstart hp
  exact h ⟨xs, zs, by simp [has]⟩

lemma dropPrefix?_eq_none_iff {pat cs : List Char} : dropPrefix? pat cs = none ↔ ¬ pat <+: cs := by
  constructor
  · rintro h ⟨rest, rfl⟩
    rw [dropPrefix?_append] at h
    cases h
  · exact dropPrefix?_eq_none

lemma splitFrom?_eq_map (pat before cs : List Char) : splitFrom? pat before cs =
    (splitFrom? pat [] cs).map fun parts => (before.reverse ++ parts.1, parts.2) := by
  induction cs generalizing before with
  | nil => by_cases hpat : pat = [] <;> simp [splitFrom?, hpat]
  | cons c cs ih =>
    rw [splitFrom?, splitFrom?]
    cases dropPrefix? pat (c :: cs) with
    | some rest => simp
    | none =>
      dsimp only
      rw [ih (c :: before), ih [c], Option.map_map]
      simp [Function.comp_def]

lemma splitOnce?_cons (pat : List Char) (c : Char) (cs : List Char) : splitOnce? pat (c :: cs) =
    match dropPrefix? pat (c :: cs) with
    | some rest => some ([], rest)
    | none => (splitOnce? pat cs).map fun parts => (c :: parts.1, parts.2) := by
  rw [splitOnce?, splitFrom?]
  cases dropPrefix? pat (c :: cs) with
  | some rest => rfl
  | none => exact splitFrom?_eq_map pat [c] cs

lemma splitFrom?_eq_none_iff {pat : List Char} (hpat : pat ≠ []) {before cs : List Char} :
    splitFrom? pat before cs = none ↔ ¬ pat <:+: cs := by
  induction cs generalizing before with
  | nil => simp [splitFrom?, hpat]
  | cons c cs ih =>
    rw [splitFrom?, List.infix_cons_iff, not_or, ← dropPrefix?_eq_none_iff]
    cases dropPrefix? pat (c :: cs) <;> simp [ih]

/-- A text is cut nowhere when the pattern does not occur in it. -/
lemma splitOnce?_eq_none_iff {pat cs : List Char} (hpat : pat ≠ []) :
    splitOnce? pat cs = none ↔ ¬ pat <:+: cs :=
  splitFrom?_eq_none_iff hpat

lemma first_of_splitFrom? {pat : List Char} (hpat : pat ≠ []) {before cs a b : List Char}
    (h : splitFrom? pat before cs = some (a, b)) :
    ∃ as, a = before.reverse ++ as ∧ ¬ pat <:+: as ++ pat.dropLast := by
  induction cs generalizing before with
  | nil =>
    rw [splitFrom?, if_neg (by simpa using hpat)] at h
    cases h
  | cons c cs ih =>
    rw [splitFrom?] at h
    cases hdrop : dropPrefix? pat (c :: cs) with
    | some rest =>
      simp only [hdrop, Option.some.injEq, Prod.mk.injEq] at h
      refine ⟨[], by simp [h.1], fun hinfix => ?_⟩
      have hlength := hinfix.length_le
      have hpos := List.length_pos_iff.2 hpat
      rw [List.nil_append, List.length_dropLast] at hlength
      omega
    | none =>
      rw [hdrop] at h
      obtain ⟨as, rfl, hfirst⟩ := ih h
      have hwhole : cs = as ++ pat ++ b := by
        have hlost := splitFrom?_eq_some h
        rwa [List.append_assoc, List.append_assoc, List.append_cancel_left_eq,
          ← List.append_assoc] at hlost
      refine ⟨c :: as, by simp, fun hinfix => ?_⟩
      rw [List.cons_append, List.infix_cons_iff] at hinfix
      rcases hinfix with hstart | hinfix
      · -- what is found before the cut would have been found at its start
        refine dropPrefix?_eq_none_iff.1 hdrop (hstart.trans ?_)
        rw [hwhole, List.cons_prefix_cons, List.append_assoc, List.prefix_append_right_inj]
        exact ⟨rfl, (List.dropLast_prefix pat).trans (List.prefix_append pat b)⟩
      · exact hfirst hinfix

/-- A text is cut at the first place where the pattern occurs. -/
lemma splitOnce?_eq_some_iff {pat cs a b : List Char} (hpat : pat ≠ []) :
    splitOnce? pat cs = some (a, b) ↔ cs = a ++ pat ++ b ∧ ¬ pat <:+: a ++ pat.dropLast := by
  constructor
  · intro h
    obtain ⟨as, rfl, hfirst⟩ := first_of_splitFrom? hpat h
    exact ⟨splitOnce?_eq_some h, hfirst⟩
  · rintro ⟨rfl, hfirst⟩
    exact splitOnce?_first hpat hfirst b

/-- Nowhere does the pattern occur in front of the place where the text is cut. -/
lemma prefix_of_splitOnce? {pat cs a b xs zs : List Char} (hpat : pat ≠ [])
    (h : splitOnce? pat cs = some (a, b)) (hcs : cs = xs ++ pat ++ zs) : a <+: xs := by
  obtain ⟨hcut, hfirst⟩ := (splitOnce?_eq_some_iff hpat).1 h
  have ha : a <+: cs := ⟨pat ++ b, by rw [hcut, List.append_assoc]⟩
  have hxs : xs <+: cs := ⟨pat ++ zs, by rw [hcs, List.append_assoc]⟩
  refine List.prefix_of_prefix_length_le ha hxs (Nat.le_of_not_lt fun hless => hfirst ?_)
  have hpos := List.length_pos_iff.2 hpat
  have hshorter : a ++ pat.dropLast <+: cs := by
    rw [hcut, List.append_assoc, List.prefix_append_right_inj]
    exact (List.dropLast_prefix pat).trans (List.prefix_append pat b)
  have hoccurs : xs ++ pat <+: a ++ pat.dropLast := by
    refine List.prefix_of_prefix_length_le ⟨zs, hcs.symm⟩ hshorter ?_
    rw [List.length_append, List.length_append, List.length_dropLast]
    omega
  exact (List.suffix_append xs pat).isInfix.trans hoccurs.isInfix

/-! ## Blanks around a text -/

lemma dropWhile_eq_self {p : Char → Bool} {cs : List Char} (h : ∀ c ∈ cs.head?, p c = false) :
    cs.dropWhile p = cs :=
  @dropWhile_append_stop _ p [] cs rfl h

lemma trimBy_of_ends {p : Char → Bool} {cs : List Char} (hfirst : ∀ c ∈ cs.head?, p c = false)
    (hlast : ∀ c ∈ cs.getLast?, p c = false) : trimBy p cs = cs := by
  rw [← List.head?_reverse] at hlast
  rw [trimBy, dropRightWhile, dropWhile_eq_self hfirst, dropWhile_eq_self hlast,
    List.reverse_reverse]

lemma trimBy_of_none {p : Char → Bool} {cs : List Char} (h : ∀ c ∈ cs, p c = false) :
    trimBy p cs = cs :=
  trimBy_of_ends (fun c hc => h c (List.mem_of_mem_head? hc))
    fun c hc => h c (List.mem_of_mem_getLast? hc)

lemma dropWhile_of_trimmed {p : Char → Bool} {cs : List Char} (h : trimBy p cs = cs) :
    cs.dropWhile p = cs := by
  have hless : (trimBy p cs).length ≤ (cs.dropWhile p).length := by
    rw [trimBy, dropRightWhile, List.length_reverse]
    have hsub := (List.dropWhile_sublist (l := (cs.dropWhile p).reverse) p).length_le
    rwa [List.length_reverse] at hsub
  rw [h] at hless
  exact (List.dropWhile_sublist p).eq_of_length_le hless

lemma trimBy_pad {p : Char → Bool} {cs : List Char} {a b : Char} (ha : p a) (hb : p b)
    (h : trimBy p cs = cs) : trimBy p (a :: (cs ++ [b])) = cs := by
  have hdrop := dropWhile_of_trimmed h
  have hright : dropRightWhile p cs = cs := by rwa [trimBy, hdrop] at h
  have hend : dropRightWhile p (cs ++ [b]) = dropRightWhile p cs := by
    rw [dropRightWhile, List.reverse_append, List.reverse_singleton, List.singleton_append,
      List.dropWhile_cons_of_pos hb, dropRightWhile]
  rw [trimBy, List.dropWhile_cons_of_pos ha]
  cases cs with
  | nil => simp [dropRightWhile, hb]
  | cons c cs =>
    have hc : ¬ p c := by
      intro hc
      rw [List.dropWhile_cons_of_pos hc] at hdrop
      have hless := (List.dropWhile_sublist (l := cs) p).length_le
      rw [hdrop, List.length_cons] at hless
      omega
    rw [List.cons_append, List.dropWhile_cons_of_neg hc, ← List.cons_append, hend, hright]

lemma dropRightWhile_dropRightWhile (p : Char → Bool) (cs : List Char) :
    dropRightWhile p (dropRightWhile p cs) = dropRightWhile p cs := by
  rw [dropRightWhile, dropRightWhile, List.reverse_reverse, dropWhile_dropWhile (fun _ h => h)]

lemma dropRightWhile_eq_iff {p : Char → Bool} {cs front : List Char} : dropRightWhile p cs = front ↔
    ∃ back, cs = front ++ back ∧ back.all p ∧ ∀ c ∈ front.getLast?, p c = false := by
  rw [dropRightWhile, List.reverse_eq_iff, dropWhile_eq_iff]
  constructor
  · rintro ⟨xs, hcs, hxs, hstop⟩
    refine ⟨xs.reverse, ?_, by simpa using hxs, by simpa using hstop⟩
    rw [← List.reverse_reverse cs, hcs, List.reverse_append, List.reverse_reverse]
  · rintro ⟨back, rfl, hback, hstop⟩
    exact ⟨back.reverse, List.reverse_append, by simpa using hback, by simpa using hstop⟩

lemma head_trimBy {p : Char → Bool} {cs : List Char} :
    ∀ c ∈ (trimBy p cs).head?, p c = false := by
  intro c hc
  have hprefix : trimBy p cs <+: cs.dropWhile p := by
    rw [trimBy, dropRightWhile]
    exact List.reverse_suffix.1 (by simpa using List.dropWhile_suffix p)
  obtain ⟨rest, hrest⟩ := hprefix
  have hhead : (cs.dropWhile p).head? = some c := by
    rw [← hrest, List.head?_append, hc]
    rfl
  obtain ⟨-, -, -, hstop⟩ := dropWhile_eq_iff.1 (rfl : cs.dropWhile p = _)
  exact hstop c hhead

lemma trimBy_trimBy (p : Char → Bool) (cs : List Char) : trimBy p (trimBy p cs) = trimBy p cs := by
  rw [trimBy, dropWhile_eq_self head_trimBy, trimBy, dropRightWhile_dropRightWhile]

lemma trim_trim (s : String) : trim (trim s) = trim s := by
  rw [trim, trim, String.toList_ofList, trimBy_trimBy]

lemma splitAt_eq_splitOnP (sep : Char → Bool) (cs : List Char) :
    splitAt sep cs = cs.splitOnP sep := by
  induction cs with
  | nil => rw [splitAt, List.splitOnP_nil]
  | cons c cs ih =>
    rw [splitAt, List.splitOnP_cons_eq_if_modifyHead, ih]
    by_cases hc : sep c
    · rw [if_pos hc, if_pos hc]
    · rw [if_neg hc, if_neg hc]
      cases h : cs.splitOnP sep with
      | nil => exact absurd h (List.splitOnP_ne_nil sep cs)
      | cons s rest => rfl

/-- No part holds a separator. -/
lemma forall_mem_splitAt (sep : Char → Bool) (cs : List Char) :
    ∀ s ∈ splitAt sep cs, ∀ c ∈ s, sep c = false := by
  fun_induction splitAt sep cs with
  | case1 => simp
  | case2 c cs hc ih => exact List.forall_mem_cons.2 ⟨by simp, ih⟩
  | case3 c cs hc hrest ih => simpa using hc
  | case4 c cs hc s rest hrest ih =>
    rw [hrest, List.forall_mem_cons] at ih
    exact List.forall_mem_cons.2
      ⟨List.forall_mem_cons.2 ⟨Bool.eq_false_iff.2 hc, ih.1⟩, ih.2⟩

/-- What stands between a separator and the next one, or the end, is a part behind the first. -/
lemma mem_tail_splitAt {sep : Char → Bool} {b : Char} {front word rest : List Char} (hb : sep b)
    (hword : ∀ c ∈ word, sep c = false) (hrest : ∀ c ∈ rest.head?, sep c) :
    word ∈ (splitAt sep (front ++ b :: (word ++ rest))).tail := by
  rw [splitAt_eq_splitOnP, List.splitOnP_append_cons _ _ hb]
  obtain ⟨s, parts, hparts⟩ := List.exists_cons_of_ne_nil (List.splitOnP_ne_nil sep front)
  rw [hparts, List.cons_append, List.tail_cons]
  apply List.mem_append_right
  cases rest with
  | nil =>
    rw [List.append_nil, List.splitOnP_eq_singleton hword]
    exact List.mem_singleton_self word
  | cons r rest =>
    rw [List.splitOnP_append_cons_of_forall_mem hword r (hrest r rfl)]
    exact List.mem_cons_self

end Unbundled.Text
