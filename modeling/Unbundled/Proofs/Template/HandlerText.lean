import Unbundled.Proofs.Markup.Reference
import Unbundled.Proofs.Template.Steps
import Unbundled.Proofs.Text.Split

/-!
# Texts that are handlers themselves

A handler is taken as it is where its text is a path or begins like a function, and is run on the
event otherwise. Both forms are given by a grammar of texts, which says nothing about the order in
which they are looked for.
-/

namespace Unbundled.Template

open Text (isPatternBlank startsWith_iff dropWhile_eq_iff dropWhile_append_stop
  dropWhile_ne_eq_cons_iff)

/-! ## The grammar -/

/-- A name in ASCII. -/
def IsName (cs : List Char) : Prop := ∃ c rest, cs = c :: rest ∧ isNameStart c ∧ rest.all isNamePart

/-- What may stand in the brackets of a path. -/
inductive IsIndex : List Char → Prop
  | quoted {q : Char} {cs : List Char} (quote : q = '"' ∨ q = '\'') (inside : q ∉ cs) :
      IsIndex (q :: (cs ++ [q]))
  | digits {cs : List Char} (some : cs ≠ []) (h : cs.all Char.isDigit) : IsIndex cs
  | name {cs : List Char} (h : IsName cs) : IsIndex cs

/-- Accesses one behind the other; blanks may stand around a dot. -/
inductive Accesses : List Char → Prop
  | nil : Accesses []
  | member {before after name cs : List Char} (hbefore : before.all isPatternBlank)
      (hafter : after.all isPatternBlank) (hname : IsName name) (h : Accesses cs) :
      Accesses (before ++ '.' :: (after ++ (name ++ cs)))
  | index {i cs : List Char} (hi : IsIndex i) (h : Accesses cs) :
      Accesses ('[' :: (i ++ ']' :: cs))

/-- A name with accesses behind it. -/
def IsPath (cs : List Char) : Prop := ∃ name rest, cs = name ++ rest ∧ IsName name ∧ Accesses rest

/-- A parameter, or what reaches from a parenthesis to the first that closes. -/
inductive IsParameters : List Char → Prop
  | name {cs : List Char} (h : IsName cs) : IsParameters cs
  | list {cs : List Char} (inside : ')' ∉ cs) : IsParameters ('(' :: (cs ++ [')']))

/-- The head of an arrow function, or of a function with a name or without one. -/
inductive BeginsFunction : List Char → Prop
  | arrow {parameters ws rest : List Char} (h : IsParameters parameters)
      (blanks : ws.all isPatternBlank) : BeginsFunction (parameters ++ (ws ++ '=' :: '>' :: rest))
  | unnamed {ws rest : List Char} (blanks : ws.all isPatternBlank) :
      BeginsFunction ("function".toList ++ (ws ++ '(' :: rest))
  | named {before word ws rest : List Char} (some : before ≠ [])
      (hbefore : before.all isPatternBlank) (someWord : word ≠ []) (hword : word.all isNamePart)
      (blanks : ws.all isPatternBlank) :
      BeginsFunction ("function".toList ++ (before ++ (word ++ (ws ++ '(' :: rest))))

/-- A function, which may be asynchronous. -/
inductive LooksLikeFunction : List Char → Prop
  | plain {cs : List Char} (h : BeginsFunction cs) : LooksLikeFunction cs
  | async {gap rest : List Char} (some : gap ≠ []) (hgap : gap.all isPatternBlank)
      (h : BeginsFunction rest) : LooksLikeFunction ("async".toList ++ (gap ++ rest))

/-! ## Paths -/

lemma isNamePart_of_isNameStart {c : Char} (h : isNameStart c) : isNamePart c := by
  simp only [isNameStart, isNamePart, isWordChar, Char.isAlphanum, Bool.or_eq_true,
    decide_eq_true_eq] at h ⊢
  rcases h with (h | h) | h
  · exact .inl (.inl (.inl h))
  · exact .inl (.inr h)
  · exact .inr h

lemma not_isNamePart_of_blank {c : Char} (h : isPatternBlank c) : isNamePart c = false := by
  simp only [isPatternBlank, Text.isMarkupBlank, Bool.or_eq_true, decide_eq_true_eq] at h
  rcases h with ((((rfl | rfl) | rfl) | rfl) | rfl) | rfl <;> decide

lemma not_isDigit_of_isNameStart {c : Char} (h : isNameStart c) : ¬ c.isDigit := by
  intro hdigit
  simp only [isNameStart, Bool.or_eq_true, decide_eq_true_eq] at h
  rcases h with (h | rfl) | rfl
  · rw [Markup.isAlpha_iff_toNat] at h
    have hless : c.toNat ≤ 57 := (Char.isDigit_iff_toNat.1 hdigit).2
    omega
  · exact absurd hdigit (by decide)
  · exact absurd hdigit (by decide)

lemma not_blank_of_isNamePart {c : Char} (h : isNamePart c) : isPatternBlank c = false := by
  cases hblank : isPatternBlank c with
  | false => rfl
  | true => rw [← not_isNamePart_of_blank hblank, h]

/-- Blanks and what follows them begin with no part of a name, where what follows does not. -/
lemma head_behind_blanks {p : Char → Bool} {ws rest : List Char} (hws : ws.all isPatternBlank)
    (hblank : ∀ c, isPatternBlank c → p c = false) (hrest : ∀ c ∈ rest.head?, p c = false) :
    ∀ c ∈ (ws ++ rest).head?, p c = false := by
  cases ws with
  | nil => exact hrest
  | cons w ws =>
    rintro c ⟨⟩
    exact hblank w (List.all_eq_true.1 hws w (.head _))

lemma dropName?_eq_some_iff {cs rest : List Char} : dropName? cs = some rest ↔
    ∃ name, cs = name ++ rest ∧ IsName name ∧ ∀ c ∈ rest.head?, isNamePart c = false := by
  constructor
  · intro h
    cases cs with
    | nil => cases h
    | cons c cs =>
      rw [dropName?] at h
      split at h
      next hc =>
        obtain ⟨xs, rfl, hxs, hstop⟩ := dropWhile_eq_iff.1 (Option.some.inj h)
        exact ⟨c :: xs, rfl, ⟨c, xs, rfl, hc, hxs⟩, hstop⟩
      next => cases h
  · rintro ⟨name, rfl, ⟨c, xs, rfl, hc, hxs⟩, hstop⟩
    rw [List.cons_append, dropName?, if_pos hc, dropWhile_append_stop hxs hstop]

lemma dropIndex?_quoted {q : Char} {cs : List Char} (quote : q = '"' ∨ q = '\'') (inside : q ∉ cs)
    (rest : List Char) : dropIndex? (q :: (cs ++ [q]) ++ ']' :: rest) = some rest := by
  have hdrop : (cs ++ q :: ']' :: rest).dropWhile (fun c => decide (c ≠ q)) = q :: ']' :: rest :=
    dropWhile_ne_eq_cons_iff.2 ⟨rfl, cs, rfl, inside⟩
  rw [List.cons_append, List.append_assoc, List.singleton_append]
  unfold dropIndex?
  dsimp only
  rw [if_pos (by simpa using quote), hdrop]
  rfl

lemma dropIndex?_digits {d : Char} {ds : List Char} (h : (d :: ds).all Char.isDigit)
    (rest : List Char) : dropIndex? (d :: ds ++ ']' :: rest) = some rest := by
  rw [List.all_cons, Bool.and_eq_true] at h
  have hquote : d ≠ '"' ∧ d ≠ '\'' := by
    constructor <;>
    · rintro rfl
      exact absurd h.1 (by decide)
  rw [List.cons_append]
  unfold dropIndex?
  dsimp only
  rw [if_neg (by simpa using hquote), if_pos h.1, dropWhile_append_stop h.2 (by simp)]
  rfl

lemma dropIndex?_name {name : List Char} (h : IsName name) (rest : List Char) :
    dropIndex? (name ++ ']' :: rest) = some rest := by
  have hdrop : dropName? (name ++ ']' :: rest) = some (']' :: rest) :=
    dropName?_eq_some_iff.2 ⟨name, rfl, h, by simp; decide⟩
  obtain ⟨c, cs, rfl, hc, -⟩ := h
  have hother : c ≠ '"' ∧ c ≠ '\'' ∧ ¬ c.isDigit := by
    refine ⟨?_, ?_, not_isDigit_of_isNameStart hc⟩ <;>
    · rintro rfl
      exact absurd hc (by decide)
  rw [List.cons_append] at hdrop ⊢
  unfold dropIndex?
  dsimp only
  rw [if_neg (by simpa using ⟨hother.1, hother.2.1⟩), if_neg hother.2.2, hdrop]
  rfl

/-- An index goes up to the first bracket behind it. -/
lemma dropIndex?_eq_some_iff {cs rest : List Char} :
    dropIndex? cs = some rest ↔ ∃ i, cs = i ++ ']' :: rest ∧ IsIndex i := by
  constructor
  · intro h
    cases cs with
    | nil => cases h
    | cons c cs =>
      unfold dropIndex? at h
      dsimp only at h
      split at h
      next hrest =>
        cases h
        split at hrest
        next hopen =>
          split at hrest
          next d rest' hdrop =>
            cases hrest
            obtain ⟨rfl, inside, rfl, hinside⟩ := dropWhile_ne_eq_cons_iff.1 hdrop
            exact ⟨d :: (inside ++ [d]), by simp, .quoted (by simpa using hopen) hinside⟩
          next => cases hrest
        split at hrest
        next hdigit =>
          obtain ⟨xs, rfl, hxs, -⟩ := dropWhile_eq_iff.1 (Option.some.inj hrest)
          exact ⟨c :: xs, rfl, .digits (by simp) (by simp [hdigit, hxs])⟩
        next =>
          obtain ⟨name, hcs, hname, -⟩ := dropName?_eq_some_iff.1 hrest
          exact ⟨name, hcs, .name hname⟩
      next => cases h
  · rintro ⟨i, rfl, hi⟩
    cases hi with
    | quoted quote inside => exact dropIndex?_quoted quote inside rest
    | digits some h =>
      obtain ⟨d, ds, rfl⟩ := List.exists_cons_of_ne_nil some
      exact dropIndex?_digits h rest
    | name h => exact dropIndex?_name h rest

lemma IsName.head_not_blank {name : List Char} (h : IsName name) (rest : List Char) :
    ∀ c ∈ (name ++ rest).head?, isPatternBlank c = false := by
  obtain ⟨c, cs, rfl, hc, -⟩ := h
  rintro _ ⟨⟩
  exact not_blank_of_isNamePart (isNamePart_of_isNameStart hc)

lemma Accesses.head_not_namePart {cs : List Char} (h : Accesses cs) :
    ∀ c ∈ cs.head?, isNamePart c = false := by
  cases h with
  | nil => simp
  | member hbefore =>
    exact head_behind_blanks hbefore (fun _ => not_isNamePart_of_blank) (by simp; decide)
  | index => simp; decide

lemma accesses_of_isAccesses {fuel : Nat} {cs : List Char} (h : isAccesses fuel cs) :
    Accesses cs := by
  induction fuel generalizing cs with
  | zero =>
    cases cs with
    | nil => exact .nil
    | cons => cases h
  | succ fuel ih =>
    cases cs with
    | nil => exact .nil
    | cons c cs =>
      by_cases hc : c = '['
      · subst hc
        rw [isAccesses.eq_3] at h
        obtain ⟨rest, hdrop, hall⟩ := (Option.any_eq_true _ _).1 h
        obtain ⟨i, rfl, hi⟩ := dropIndex?_eq_some_iff.1 hdrop
        exact .index hi (ih hall)
      · rw [isAccesses.eq_4 _ _ (by simp) (by simp [hc])] at h
        split at h
        next behind hdot =>
          obtain ⟨rest, hdrop, hall⟩ := (Option.any_eq_true _ _).1 h
          obtain ⟨before, hcs, hbefore, -⟩ := dropWhile_eq_iff.1 hdot
          obtain ⟨name, hsplit, hname, -⟩ := dropName?_eq_some_iff.1 hdrop
          obtain ⟨after, rfl, hafter, -⟩ := dropWhile_eq_iff.1 hsplit
          rw [hcs]
          exact .member hbefore hafter hname (ih hall)
        next => cases h

lemma isAccesses_member {before : List Char} (h : before.all isPatternBlank) (fuel : Nat)
    (cs : List Char) : isAccesses (fuel + 1) (before ++ '.' :: cs) =
      (dropName? (cs.dropWhile isPatternBlank)).any (isAccesses fuel) := by
  have hdot : (before ++ '.' :: cs).dropWhile isPatternBlank = '.' :: cs :=
    dropWhile_append_stop h (by simp; decide)
  have hbracket : ∀ cs', before ++ '.' :: cs = '[' :: cs' → False := by
    intro cs' heq
    cases before with
    | nil => cases heq
    | cons w ws =>
      cases heq
      exact absurd (List.all_eq_true.1 h '[' (.head _)) (by decide)
  rw [isAccesses.eq_4 _ _ (by simp) hbracket]
  simp only [hdot]

/-- Each access takes at least one character. -/
lemma isAccesses_of_accesses {cs : List Char} (h : Accesses cs) {fuel : Nat}
    (hfuel : cs.length ≤ fuel) : isAccesses fuel cs := by
  induction h generalizing fuel with
  | nil => exact isAccesses.eq_1 fuel
  | @member before after name cs hbefore hafter hname hcs ih =>
    cases fuel with
    | zero => simp at hfuel
    | succ fuel =>
      have hdrop : dropName? ((after ++ (name ++ cs)).dropWhile isPatternBlank) = some cs := by
        rw [dropWhile_append_stop hafter (hname.head_not_blank cs)]
        exact dropName?_eq_some_iff.2 ⟨name, rfl, hname, hcs.head_not_namePart⟩
      rw [isAccesses_member hbefore, hdrop]
      exact ih (by simp at hfuel; omega)
  | @index i cs hi hcs ih =>
    cases fuel with
    | zero => simp at hfuel
    | succ fuel =>
      rw [isAccesses.eq_3, dropIndex?_eq_some_iff.2 ⟨i, rfl, hi⟩]
      exact ih (by simp at hfuel; omega)

theorem isSimplePath_iff {s : String} : isSimplePath s ↔ IsPath s.toList := by
  rw [isSimplePath, Option.any_eq_true]
  constructor
  · rintro ⟨rest, hname, hall⟩
    obtain ⟨name, hsplit, hname, -⟩ := dropName?_eq_some_iff.1 hname
    exact ⟨name, rest, hsplit, hname, accesses_of_isAccesses hall⟩
  · rintro ⟨name, rest, hsplit, hname, hrest⟩
    exact ⟨rest, dropName?_eq_some_iff.2 ⟨name, hsplit, hname, hrest.head_not_namePart⟩,
      isAccesses_of_accesses hrest (Nat.le_refl _)⟩

/-! ## Functions -/

/-- What begins with no blank stands behind the blanks, however many there are. -/
lemma behind_blanks_iff {P : List Char → Prop}
    (hP : ∀ rest, P rest → ∀ c ∈ rest.head?, isPatternBlank c = false) {cs : List Char} :
    P (cs.dropWhile isPatternBlank) ↔
      ∃ ws rest, cs = ws ++ rest ∧ ws.all isPatternBlank ∧ P rest := by
  constructor
  · intro h
    obtain ⟨ws, hcs, hws, -⟩ := dropWhile_eq_iff.1 (rfl : cs.dropWhile isPatternBlank = _)
    exact ⟨ws, _, hcs, hws, h⟩
  · rintro ⟨ws, rest, rfl, hws, h⟩
    rwa [dropWhile_append_stop hws (hP rest h)]

lemma mark_behind_blanks_iff {m : Char} (hm : isPatternBlank m = false) (ms : List Char)
    {cs : List Char} : Text.startsWith (m :: ms) (cs.dropWhile isPatternBlank) ↔
      ∃ ws rest, cs = ws ++ m :: (ms ++ rest) ∧ ws.all isPatternBlank := by
  have hhead : ∀ rest, Text.startsWith (m :: ms) rest →
      ∀ c ∈ rest.head?, isPatternBlank c = false := by
    intro rest h
    obtain ⟨rest, rfl⟩ := startsWith_iff.1 h
    rintro _ ⟨⟩
    exact hm
  rw [behind_blanks_iff hhead]
  constructor
  · rintro ⟨ws, rest, rfl, hws, h⟩
    obtain ⟨rest, rfl⟩ := startsWith_iff.1 h
    exact ⟨ws, rest, rfl, hws⟩
  · rintro ⟨ws, rest, rfl, hws⟩
    exact ⟨ws, _, rfl, hws, startsWith_iff.2 ⟨rest, rfl⟩⟩

lemma startsArrow_list {inside : List Char} (h : ')' ∉ inside) (cs : List Char) :
    startsArrow ('(' :: (inside ++ [')']) ++ cs) =
      Text.startsWith ['=', '>'] (cs.dropWhile isPatternBlank) := by
  have hdrop : (inside ++ ')' :: cs).dropWhile (fun c => decide (c ≠ ')')) = ')' :: cs :=
    dropWhile_ne_eq_cons_iff.2 ⟨rfl, inside, rfl, h⟩
  rw [List.cons_append, List.append_assoc, List.singleton_append]
  simp only [startsArrow, hdrop, Option.any_some]

lemma startsArrow_name {name cs : List Char} (h : IsName name)
    (hcs : ∀ c ∈ cs.head?, isNamePart c = false) : startsArrow (name ++ cs) =
      Text.startsWith ['=', '>'] (cs.dropWhile isPatternBlank) := by
  have hdrop : dropName? (name ++ cs) = some cs := dropName?_eq_some_iff.2 ⟨name, rfl, h, hcs⟩
  unfold startsArrow
  split
  next heq =>
    obtain ⟨c, rest, rfl, hc, -⟩ := h
    cases heq
    exact absurd hc (by decide)
  next => rw [hdrop, Option.any_some]

/-- An arrow is looked for behind one group of parameters. -/
lemma parameters_of_startsArrow {cs : List Char} (h : startsArrow cs) : ∃ parameters rest,
    cs = parameters ++ rest ∧ IsParameters parameters ∧
      Text.startsWith ['=', '>'] (rest.dropWhile isPatternBlank) := by
  obtain ⟨rest, hdrop, hmark⟩ := (Option.any_eq_true _ _).1 h
  split at hdrop
  next =>
    split at hdrop
    next c _ hclose =>
      cases hdrop
      obtain ⟨rfl, inside, rfl, hinside⟩ := dropWhile_ne_eq_cons_iff.1 hclose
      exact ⟨'(' :: (inside ++ [')']), rest, by simp, .list hinside, hmark⟩
    next => cases hdrop
  next =>
    obtain ⟨name, rfl, hname, -⟩ := dropName?_eq_some_iff.1 hdrop
    exact ⟨name, rest, rfl, .name hname, hmark⟩

lemma opens_iff {cs : List Char} : (cs.dropWhile isPatternBlank).head? == some '(' ↔
    ∃ ws rest, cs = ws ++ '(' :: rest ∧ ws.all isPatternBlank := by
  have hmark : Text.startsWith ['('] (cs.dropWhile isPatternBlank) ↔ _ :=
    mark_behind_blanks_iff (by decide) []
  rw [startsWith_iff] at hmark
  rw [beq_iff_eq, List.head?_eq_some_iff]
  exact hmark

/-- The word, at least one blank and one character of a name, and a parenthesis. -/
lemma named_of_opens {cs : List Char} (hblank : isPatternBlank (cs.headD 'x'))
    (hpart : isNamePart ((cs.dropWhile isPatternBlank).headD ' '))
    (hopen : (((cs.dropWhile isPatternBlank).dropWhile isNamePart).dropWhile
      isPatternBlank).head? == some '(') : BeginsFunction ("function".toList ++ cs) := by
  obtain ⟨ws, behind, hbehind, hws⟩ := opens_iff.1 hopen
  cases cs with
  | nil => exact absurd hblank (by decide)
  | cons b cs =>
    rw [List.headD_cons] at hblank
    rw [List.dropWhile_cons_of_pos hblank] at hpart hbehind
    obtain ⟨before, hbefore, hblanks, -⟩ :=
      dropWhile_eq_iff.1 (rfl : cs.dropWhile isPatternBlank = _)
    cases hname : cs.dropWhile isPatternBlank with
    | nil =>
      rw [hname] at hpart
      exact absurd hpart (by decide)
    | cons w name =>
      rw [hname, List.headD_cons] at hpart
      rw [hname, List.dropWhile_cons_of_pos hpart] at hbehind
      obtain ⟨word, rfl, hword, -⟩ := dropWhile_eq_iff.1 hbehind
      rw [hbefore, hname]
      exact .named (List.cons_ne_nil b before) (by simp [hblank, hblanks])
        (List.cons_ne_nil w word) (by simp [hpart, hword]) hws

lemma beginsFunction_of_startsFunction {cs : List Char} (h : startsFunction cs) :
    BeginsFunction cs := by
  unfold startsFunction at h
  split at h
  next => cases h
  next rest hdrop =>
    rw [Text.dropPrefix?_eq_some hdrop]
    dsimp only at h
    rw [Bool.or_eq_true, Bool.and_eq_true, Bool.and_eq_true] at h
    rcases h with hopen | ⟨hblank, hpart, hopen⟩
    · obtain ⟨ws, rest, rfl, hws⟩ := opens_iff.1 hopen
      exact .unnamed hws
    · exact named_of_opens hblank hpart hopen

lemma startsFunction_unnamed {ws : List Char} (h : ws.all isPatternBlank) (rest : List Char) :
    startsFunction ("function".toList ++ (ws ++ '(' :: rest)) := by
  have hdrop : Text.dropPrefix? ['f', 'u', 'n', 'c', 't', 'i', 'o', 'n']
      ("function".toList ++ (ws ++ '(' :: rest)) = some (ws ++ '(' :: rest) :=
    Text.dropPrefix?_append _ _
  unfold startsFunction
  simp only [hdrop]
  rw [Bool.or_eq_true]
  exact .inl (opens_iff.2 ⟨ws, rest, rfl, h⟩)

lemma startsFunction_named {before word ws : List Char} (some : before ≠ [])
    (hbefore : before.all isPatternBlank) (someWord : word ≠ []) (hword : word.all isNamePart)
    (hws : ws.all isPatternBlank) (rest : List Char) :
    startsFunction ("function".toList ++ (before ++ (word ++ (ws ++ '(' :: rest)))) := by
  have hdrop : Text.dropPrefix? ['f', 'u', 'n', 'c', 't', 'i', 'o', 'n']
      ("function".toList ++ (before ++ (word ++ (ws ++ '(' :: rest)))) =
        .some (before ++ (word ++ (ws ++ '(' :: rest))) := Text.dropPrefix?_append _ _
  have hopen : (((word ++ (ws ++ '(' :: rest)).dropWhile isNamePart).dropWhile
      isPatternBlank).head? == .some '(' := by
    rw [dropWhile_append_stop hword
      (head_behind_blanks hws (fun _ => not_isNamePart_of_blank) (by simp; decide))]
    exact opens_iff.2 ⟨ws, rest, rfl, hws⟩
  obtain ⟨b, bs, rfl⟩ := List.exists_cons_of_ne_nil some
  obtain ⟨w, name, rfl⟩ := List.exists_cons_of_ne_nil someWord
  have hblank : isPatternBlank b := List.all_eq_true.1 hbefore b (.head _)
  have hpart : isNamePart w := List.all_eq_true.1 hword w (.head _)
  have hskip : (b :: bs ++ (w :: name ++ (ws ++ '(' :: rest))).dropWhile isPatternBlank =
      w :: name ++ (ws ++ '(' :: rest) :=
    dropWhile_append_stop hbefore (by rintro _ ⟨⟩; exact not_blank_of_isNamePart hpart)
  unfold startsFunction
  simp only [hdrop]
  rw [Bool.or_eq_true, Bool.and_eq_true, Bool.and_eq_true, hskip]
  exact .inr ⟨hblank, hpart, hopen⟩

lemma beginsFunction_iff {cs : List Char} :
    startsArrow cs || startsFunction cs ↔ BeginsFunction cs := by
  have harrow : isPatternBlank '=' = false := by decide
  rw [Bool.or_eq_true]
  constructor
  · rintro (h | h)
    · obtain ⟨parameters, rest, rfl, hparameters, hmark⟩ := parameters_of_startsArrow h
      obtain ⟨ws, rest, rfl, hws⟩ := (mark_behind_blanks_iff harrow ['>']).1 hmark
      exact .arrow hparameters hws
    · exact beginsFunction_of_startsFunction h
  · intro h
    cases h with
    | @arrow parameters ws rest hparameters hws =>
      have hmark := (mark_behind_blanks_iff harrow ['>']).2 ⟨ws, rest, rfl, hws⟩
      refine .inl ?_
      cases hparameters with
      | list inside => rwa [startsArrow_list inside]
      | name hname =>
        rwa [startsArrow_name hname]
        exact head_behind_blanks hws (fun _ => not_isNamePart_of_blank) (by simp; decide)
    | unnamed hws => exact .inr (startsFunction_unnamed hws _)
    | named some hbefore someWord hword hws =>
      exact .inr (startsFunction_named some hbefore someWord hword hws _)

lemma BeginsFunction.head_not_blank {cs : List Char} (h : BeginsFunction cs) :
    ∀ c ∈ cs.head?, isPatternBlank c = false := by
  cases h with
  | arrow h _ =>
    cases h with
    | name h => exact h.head_not_blank _
    | list => rintro _ ⟨⟩; decide
  | unnamed => rintro _ ⟨⟩; decide
  | named => rintro _ ⟨⟩; decide

lemma dropWordAndBlank?_eq_some_iff {word cs rest : List Char} :
    dropWordAndBlank? word cs = some rest ↔ ∃ gap, cs = word ++ (gap ++ rest) ∧ gap ≠ [] ∧
      gap.all isPatternBlank ∧ ∀ c ∈ rest.head?, isPatternBlank c = false := by
  constructor
  · intro h
    unfold dropWordAndBlank? at h
    split at h
    next c behind hdrop =>
      split at h
      next hblank =>
        obtain ⟨gap, rfl, hgap, hstop⟩ := dropWhile_eq_iff.1 (Option.some.inj h)
        exact ⟨c :: gap, Text.dropPrefix?_eq_some hdrop, by simp, by simp [hblank, hgap], hstop⟩
      next => cases h
    next => cases h
  · rintro ⟨gap, rfl, some, hgap, hstop⟩
    obtain ⟨b, bs, rfl⟩ := List.exists_cons_of_ne_nil some
    rw [List.all_cons, Bool.and_eq_true] at hgap
    rw [dropWordAndBlank?, Text.dropPrefix?_append, List.cons_append]
    dsimp only
    rw [if_pos hgap.1, dropWhile_append_stop hgap.2 hstop]

lemma LooksLikeFunction.head_not_blank {cs : List Char} (h : LooksLikeFunction cs) :
    ∀ c ∈ cs.head?, isPatternBlank c = false := by
  cases h with
  | plain h => exact h.head_not_blank
  | async => rintro _ ⟨⟩; decide

lemma looksLikeFunction_iff {cs : List Char} : LooksLikeFunction cs ↔
    (startsArrow cs || startsFunction cs) ||
      (dropWordAndBlank? ['a', 's', 'y', 'n', 'c'] cs).any fun cs =>
        startsArrow cs || startsFunction cs := by
  rw [Bool.or_eq_true, beginsFunction_iff, Option.any_eq_true]
  constructor
  · intro h
    cases h with
    | plain h => exact .inl h
    | async some hgap h =>
      refine .inr ⟨_, ?_, beginsFunction_iff.2 h⟩
      exact dropWordAndBlank?_eq_some_iff.2 ⟨_, rfl, some, hgap, h.head_not_blank⟩
  · rintro (h | ⟨rest, hdrop, h⟩)
    · exact .plain h
    · obtain ⟨gap, rfl, some, hgap, -⟩ := dropWordAndBlank?_eq_some_iff.1 hdrop
      exact .async some hgap (beginsFunction_iff.1 h)

theorem isFunctionExpression_iff {s : String} : isFunctionExpression s ↔
    ∃ ws rest, s.toList = ws ++ rest ∧ ws.all isPatternBlank ∧ LooksLikeFunction rest := by
  rw [← behind_blanks_iff fun _ => LooksLikeFunction.head_not_blank, looksLikeFunction_iff]
  rfl

-- a function that is invoked at once begins like any other, one in parentheses does not
example : isFunctionExpression "function () \x7b go() \x7d()" := by decide
example : ¬ isFunctionExpression "(e => go(e))" := by decide

/-! ## Handlers -/

lemma isBlank_of_isPatternBlank {c : Char} (h : isPatternBlank c) : Text.isBlank c := by
  simp only [isPatternBlank, Text.isMarkupBlank, Bool.or_eq_true, decide_eq_true_eq] at h
  rcases h with ((((rfl | rfl) | rfl) | rfl) | rfl) | rfl <;> decide

lemma not_isPatternBlank {c : Char} (h : Text.isBlank c = false) : isPatternBlank c = false := by
  cases hblank : isPatternBlank c with
  | false => rfl
  | true => rw [← h, isBlank_of_isPatternBlank hblank]

/-- A path, or the beginning of a function. -/
def IsHandler (cs : List Char) : Prop := IsPath cs ∨ LooksLikeFunction cs

/-- Nothing stands around a trimmed text. -/
lemma isHandler_trim_iff {s : String} : IsHandler (Text.trim s).toList ↔
    isSimplePath (Text.trim s) || isFunctionExpression (Text.trim s) := by
  have hhead : ∀ c ∈ (Text.trim s).toList.head?, isPatternBlank c = false := by
    intro c hc
    rw [Text.trim, String.toList_ofList] at hc
    exact not_isPatternBlank (Text.head_trimBy c hc)
  rw [Bool.or_eq_true, isSimplePath_iff, isFunctionExpression_iff,
    ← behind_blanks_iff fun _ => LooksLikeFunction.head_not_blank, Text.dropWhile_eq_self hhead,
    IsHandler]

/-- What the text of a handler stands for. A text that is no handler itself is read as an
expression, and as statements where it is no expression. -/
inductive Handles (scope : List String) : String → Value → Prop
  | idle : Handles scope "" .idle
  | taken {value source : String} (some : value ≠ "") (h : IsHandler value.toList)
      (compiled : prefixedExpression scope value = .ok source) :
      Handles scope value (.source source)
  | run {value source : String} (some : value ≠ "") (h : ¬ IsHandler value.toList)
      (compiled : prefixedExpression (scope ++ ["$event"]) value = .ok source) :
      Handles scope value (.onEvent source)
  | runBlock {value statements : String} {e : Script.Diagnostic} (some : value ≠ "")
      (h : ¬ IsHandler value.toList)
      (refused : prefixedExpression (scope ++ ["$event"]) value = .error e)
      (compiled : prefixedStatements (scope ++ ["$event"]) value = .ok statements) :
      Handles scope value (.onEventBlock statements)

theorem handler_eq_ok_iff {scope : List String} {value? : Option String} {h : Value} :
    handler scope value? = .ok h ↔ Handles scope (Text.trim (value?.getD "")) h := by
  have htaken := isHandler_trim_iff (s := value?.getD "")
  rw [handler]
  generalize Text.trim (value?.getD "") = value at *
  dsimp only
  simp only [String.isEmpty_iff]
  constructor
  · intro hok
    split at hok
    next hempty =>
      cases hok
      rw [hempty]
      exact .idle
    next hsome =>
      split at hok
      next hhandler =>
        obtain ⟨source, hsource, rfl⟩ := map_eq_ok.1 hok
        exact .taken hsome (htaken.2 hhandler) (expression_eq_ok.1 hsource)
      next hhandler =>
        have hother : ¬ IsHandler value.toList := fun h => hhandler (htaken.1 h)
        split at hok
        next hsource =>
          cases hok
          exact .run hsome hother hsource
        next hrefused =>
          split at hok
          next hstatements =>
            cases hok
            exact .runBlock hsome hother hrefused hstatements
          next => cases hok
  · intro hok
    cases hok with
    | idle => rfl
    | taken hsome hhandler compiled =>
      rw [if_neg hsome, if_pos (htaken.1 hhandler)]
      exact map_eq_ok.2 ⟨_, expression_eq_ok.2 compiled, rfl⟩
    | run hsome hother compiled =>
      rw [if_neg hsome, if_neg (fun h => hother (htaken.2 h)), compiled]
    | runBlock hsome hother refused compiled =>
      rw [if_neg hsome, if_neg (fun h => hother (htaken.2 h)), refused]
      dsimp only
      rw [compiled]

end Unbundled.Template
