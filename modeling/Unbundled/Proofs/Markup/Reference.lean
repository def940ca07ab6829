import Unbundled.Markup.Entity
import Mathlib.Tactic.Lemma

/-!
# Spellings of characters

A character may be written as itself, by name, or by number in either radix. Decoding gives it
back, whichever spelling was chosen and whatever follows it.
-/

namespace Unbundled.Markup

/-- `w` is a way to write `c`. A character is written as itself only where `raw` allows it. -/
inductive Spells (raw : Char → Bool) : Char → List Char → Prop
  | raw {c : Char} (h : raw c) (hamp : c ≠ '&') : Spells raw c [c]
  | named {name : List Char} {c : Char} (h : (name, c) ∈ namedReferences) :
      Spells raw c ('&' :: name ++ [';'])
  | decimal (c : Char) : Spells raw c ('&' :: '#' :: Nat.toDigits 10 c.toNat ++ [';'])
  | hex {c x : Char} {ds : List Char} (hx : x = 'x' ∨ x = 'X')
      (h : ds.map Char.toLower = Nat.toDigits 16 c.toNat) :
      Spells raw c ('&' :: '#' :: x :: ds ++ [';'])

inductive SpellsAll (raw : Char → Bool) : List Char → List Char → Prop
  | nil : SpellsAll raw [] []
  | cons {c : Char} {cs w ws : List Char} (h : Spells raw c w) (hs : SpellsAll raw cs ws) :
      SpellsAll raw (c :: cs) (w ++ ws)

/-! ## Digits -/

lemma digit?_hex : ∀ d < 16, digit? 16 d.digitChar = some d := by decide

lemma digit?_decimal : ∀ d < 10, digit? 10 d.digitChar = some d := by decide

lemma toNat_of_digit {c : Char} (h : (digit? 16 c).isSome) :
    (48 ≤ c.toNat ∧ c.toNat ≤ 57) ∨ (65 ≤ c.toNat ∧ c.toNat ≤ 70) ∨
      (97 ≤ c.toNat ∧ c.toNat ≤ 102) := by
  simp only [digit?] at h
  split at h
  · simp_all
  · split at h
    · simp_all
    · split at h
      · simp_all
      · cases h

lemma toNat_toLower (c : Char) :
    c.toLower.toNat = if 65 ≤ c.toNat ∧ c.toNat ≤ 90 then c.toNat + 32 else c.toNat := by
  have hcase : (c.val ≥ 'A'.val ∧ c.val ≤ 'Z'.val) ↔ 65 ≤ c.toNat ∧ c.toNat ≤ 90 := by
    rw [ge_iff_le, UInt32.le_iff_toNat_le, UInt32.le_iff_toNat_le]
    exact Iff.rfl
  unfold Char.toLower
  split
  · next h =>
    rw [if_pos (hcase.1 h)]
    have hup := (hcase.1 h).2
    show (c.val + 32).toNat = c.val.toNat + 32
    rw [UInt32.toNat_add, Nat.mod_eq_of_lt]
    · rfl
    · show c.toNat + 32 < 2 ^ 32
      omega
  · next h => rw [if_neg fun hc => h (hcase.2 hc)]

lemma digit?_toLower (c : Char) : digit? 16 c.toLower = digit? 16 c := by
  unfold digit?
  rw [toNat_toLower]
  grind

lemma foldlM_toDigits {radix : Nat} (hradix : 1 < radix)
    (hdigit : ∀ d < radix, digit? radix d.digitChar = some d) (n : Nat) :
    (Nat.toDigits radix n).foldlM (fun n c => (digit? radix c).map (radix * n + ·)) 0 = some n := by
  induction n using Nat.strongRecOn with
  | ind n ih =>
    by_cases hn : n < radix
    · rw [Nat.toDigits_of_lt_base hn]
      simp [hdigit n hn]
    · have hless : n / radix < n := Nat.div_lt_self (by omega) hradix
      have hmod : n % radix < radix := Nat.mod_lt n (by omega)
      rw [Nat.toDigits_of_base_le hradix (by omega), List.foldlM_append, ih _ hless]
      simp [hdigit _ hmod, Nat.div_add_mod]

lemma number?_eq_foldlM {radix : Nat} {cs : List Char} (h : cs ≠ []) :
    number? radix cs = cs.foldlM (fun n c => (digit? radix c).map (radix * n + ·)) 0 := by
  cases cs with
  | nil => exact absurd rfl h
  | cons c cs => rfl

lemma number?_decimal (n : Nat) : number? 10 (Nat.toDigits 10 n) = some n := by
  rw [number?_eq_foldlM Nat.toDigits_ne_nil, foldlM_toDigits (by decide) digit?_decimal]

lemma number?_hex {ds : List Char} {n : Nat} (h : ds.map Char.toLower = Nat.toDigits 16 n) :
    number? 16 ds = some n := by
  have hne : ds ≠ [] := by
    rintro rfl
    exact Nat.toDigits_ne_nil h.symm
  have hread := @foldlM_toDigits 16 (by decide) digit?_hex n
  rw [← h, List.foldlM_map] at hread
  simp only [digit?_toLower] at hread
  rw [number?_eq_foldlM hne, hread]

/-! ## References -/

def isEntityChar (c : Char) : Bool := c.isAlphanum || c = '#'

lemma isUpper_iff_toNat (c : Char) : c.isUpper ↔ 65 ≤ c.toNat ∧ c.toNat ≤ 90 := by
  change decide ('A'.val ≤ c.val ∧ c.val ≤ 'Z'.val) = true ↔ _
  rw [decide_eq_true_iff, UInt32.le_iff_toNat_le, UInt32.le_iff_toNat_le]
  exact Iff.rfl

lemma isLower_iff_toNat (c : Char) : c.isLower ↔ 97 ≤ c.toNat ∧ c.toNat ≤ 122 := by
  change (decide ('a'.val ≤ c.val) && decide (c.val ≤ 'z'.val)) = true ↔ _
  rw [Bool.and_eq_true, decide_eq_true_iff, decide_eq_true_iff, UInt32.le_iff_toNat_le,
    UInt32.le_iff_toNat_le]
  exact Iff.rfl

lemma isAlpha_iff_toNat (c : Char) : c.isAlpha ↔
    (65 ≤ c.toNat ∧ c.toNat ≤ 90) ∨ (97 ≤ c.toNat ∧ c.toNat ≤ 122) := by
  have hkinds : c.isAlpha = (c.isUpper || c.isLower) := rfl
  rw [hkinds, Bool.or_eq_true, isUpper_iff_toNat, isLower_iff_toNat]

lemma isAlphanum_iff (c : Char) : c.isAlphanum ↔
    (48 ≤ c.toNat ∧ c.toNat ≤ 57) ∨ (65 ≤ c.toNat ∧ c.toNat ≤ 90) ∨
      (97 ≤ c.toNat ∧ c.toNat ≤ 122) := by
  have hkinds : c.isAlphanum = (c.isAlpha || c.isDigit) := rfl
  rw [hkinds, Bool.or_eq_true, isAlpha_iff_toNat, Char.isDigit_iff_toNat, or_comm]
  exact Iff.rfl

lemma isEntityChar_of_digit {c : Char} (h : (digit? 16 c).isSome) : isEntityChar c := by
  have hplace := toNat_of_digit h
  rw [isEntityChar, Bool.or_eq_true, isAlphanum_iff]
  omega

lemma isEntityChar_of_isDigit {c : Char} (h : c.isDigit) : isEntityChar c := by
  simp [isEntityChar, Char.isAlphanum, h]

lemma utf8Size_of_entity {c : Char} (h : isEntityChar c) : c.utf8Size = 1 := by
  have hless : c.toNat < 128 := by
    rw [isEntityChar, Bool.or_eq_true, isAlphanum_iff, decide_eq_true_iff] at h
    rcases h with h | rfl
    · omega
    · decide
  rw [Char.utf8Size_eq_one_iff, UInt32.le_iff_toNat_le]
  exact Nat.le_of_lt_succ hless

lemma size_of_entity {cs : List Char} (h : cs.all isEntityChar) : Utf8.size cs = cs.length := by
  induction cs with
  | nil => rfl
  | cons c cs ih =>
    rw [List.all_cons, Bool.and_eq_true] at h
    rw [Utf8.size_cons, utf8Size_of_entity h.1, ih h.2, List.length_cons, Nat.add_comm]

lemma scalar?_toNat (c : Char) : scalar? c.toNat = some c := by
  have hvalid : c.toNat.isValidChar := c.valid
  rw [scalar?, if_pos hvalid, Char.ofNat_toNat]

lemma digits_hex {n : Nat} : ∀ c ∈ Nat.toDigits 16 n, (digit? 16 c).isSome := by
  induction n using Nat.strongRecOn with
  | ind n ih =>
    intro c hc
    by_cases hn : n < 16
    · rw [Nat.toDigits_of_lt_base hn, List.mem_singleton] at hc
      rw [hc, digit?_hex n hn]
      rfl
    · rw [Nat.toDigits_of_base_le (by decide) (by omega), List.mem_append,
        List.mem_singleton] at hc
      rcases hc with hc | rfl
      · exact ih (n / 16) (by omega) c hc
      · rw [digit?_hex _ (by omega)]
        rfl

lemma lookup_hash (cs : List Char) : namedReferences.lookup ('#' :: cs) = none := by
  simp [namedReferences, List.lookup_cons]

lemma signedNumber?_cons {radix : Nat} {d : Char} (hplus : d ≠ '+') (ds : List Char) :
    signedNumber? radix (d :: ds) = number? radix (d :: ds) := by
  unfold signedNumber?
  split
  · next h => exact absurd (List.cons.inj h).1 hplus
  · rfl

lemma referenced?_decimal (c : Char) :
    referenced? ('#' :: Nat.toDigits 10 c.toNat) = some c := by
  obtain ⟨d, ds, hds⟩ := List.exists_cons_of_ne_nil (Nat.toDigits_ne_nil (n := c.toNat) (b := 10))
  have hd : d.isDigit :=
    Nat.isDigit_of_mem_toDigits (b := 10) (n := c.toNat) (by decide) (by decide) (by simp [hds])
  have hnot (x : Char) (hx : x.isDigit = false) : d ≠ x := by
    rintro rfl
    rw [hx] at hd
    cases hd
  have hnumber := number?_decimal c.toNat
  rw [hds] at hnumber ⊢
  rw [referenced?, lookup_hash]
  · dsimp only
    rw [signedNumber?_cons (hnot '+' (by decide)), hnumber, Option.bind_some, scalar?_toNat]
  · exact fun hex h => hnot 'x' (by decide) (List.cons.inj h).1
  · exact fun hex h => hnot 'X' (by decide) (List.cons.inj h).1

lemma referenced?_hex {c x : Char} {ds : List Char} (hx : x = 'x' ∨ x = 'X')
    (h : ds.map Char.toLower = Nat.toDigits 16 c.toNat) :
    referenced? ('#' :: x :: ds) = some c := by
  have hnumber := number?_hex h
  obtain ⟨d, ds, rfl⟩ : ∃ d es, ds = d :: es := by
    cases ds with
    | nil => exact absurd h.symm Nat.toDigits_ne_nil
    | cons d ds => exact ⟨d, ds, rfl⟩
  have hplus : d ≠ '+' := by
    rintro rfl
    have hnone : number? 16 ('+' :: ds) = none := by simp [number?, digit?]
    rw [hnone] at hnumber
    cases hnumber
  rcases hx with rfl | rfl
  · rw [referenced?, lookup_hash]
    dsimp only
    rw [signedNumber?_cons hplus, hnumber, Option.bind_some, scalar?_toNat]
  · rw [referenced?, lookup_hash]
    dsimp only
    rw [signedNumber?_cons hplus, hnumber, Option.bind_some, scalar?_toNat]

/-- A way to write a character is the character or a reference to it. -/
lemma spells_cases {raw : Char → Bool} {c : Char} {w : List Char} (h : Spells raw c w) :
    (raw c ∧ c ≠ '&' ∧ w = [c]) ∨
      ∃ entity, w = '&' :: entity ++ [';'] ∧ referenced? entity = some c ∧
        entity.all isEntityChar ∧ entity.length ≤ 9 := by
  have hless : c.toNat < 10 ^ 7 := by
    have hvalid : c.toNat.isValidChar := c.valid
    unfold Nat.isValidChar at hvalid
    omega
  cases h with
  | raw h hamp => exact .inl ⟨h, hamp, rfl⟩
  | @named name c h =>
    have hall : ∀ p ∈ namedReferences, referenced? p.1 = some p.2 ∧
        p.1.all isEntityChar ∧ p.1.length ≤ 9 := by decide
    exact .inr ⟨name, rfl, hall _ h⟩
  | decimal =>
    have hlength : (Nat.toDigits 10 c.toNat).length ≤ 7 :=
      (Nat.length_toDigits_le_iff (by decide) (by decide)).2 hless
    refine .inr ⟨_, rfl, referenced?_decimal c, ?_, by simp; omega⟩
    rw [List.all_cons, Bool.and_eq_true, List.all_eq_true]
    exact ⟨rfl, fun d hd =>
      isEntityChar_of_isDigit (Nat.isDigit_of_mem_toDigits (by decide) (by decide) hd)⟩
  | @hex _ x ds hx h =>
    have hlength : (Nat.toDigits 16 c.toNat).length ≤ 7 :=
      (Nat.length_toDigits_le_iff (by decide) (by decide)).2 (by omega)
    rw [← h, List.length_map] at hlength
    refine .inr ⟨_, rfl, referenced?_hex hx h, ?_, by simp; omega⟩
    have hdigits : ∀ d ∈ ds, isEntityChar d := fun d hd => by
      have hlower := digits_hex d.toLower (h ▸ List.mem_map_of_mem hd)
      rw [digit?_toLower] at hlower
      exact isEntityChar_of_digit hlower
    rw [List.all_cons, List.all_cons, Bool.and_eq_true, Bool.and_eq_true, List.all_eq_true]
    exact ⟨rfl, by rcases hx with rfl | rfl <;> rfl, hdigits⟩

/-! ## Decoding -/

lemma decodeFrom_skip (skipped rest : List Char) :
    decodeFrom skipped.length (skipped ++ rest) = decodeFrom 0 rest := by
  induction skipped with
  | nil => rfl
  | cons c cs ih => exact ih

lemma reference?_entity {entity : List Char} {c : Char} (hentity : referenced? entity = some c)
    (hchars : entity.all isEntityChar) (hlength : entity.length ≤ 9) (rest : List Char) :
    reference? (entity ++ ';' :: rest) = some (c, entity.length + 1) := by
  have htake : (entity ++ ';' :: rest).takeWhile (· ≠ ';') = entity := by
    rw [List.takeWhile_append_of_pos]
    · simp
    · intro d hd
      rw [decide_eq_true_iff]
      rintro rfl
      exact absurd (List.all_eq_true.1 hchars _ hd) (by decide)
  rw [reference?, htake, hentity, size_of_entity hchars, if_pos ⟨by simp, hlength⟩]
  rfl

lemma decodeFrom_spells {raw : Char → Bool} {c : Char} {w : List Char} (h : Spells raw c w)
    (rest : List Char) : decodeFrom 0 (w ++ rest) = c :: decodeFrom 0 rest := by
  rcases spells_cases h with ⟨-, hamp, rfl⟩ | ⟨entity, rfl, hentity, hchars, hlength⟩
  · rw [List.singleton_append, decodeFrom, if_neg hamp]
  · have hskip := decodeFrom_skip (entity ++ [';']) rest
    rw [List.length_append, List.append_assoc] at hskip
    rw [List.append_assoc, List.cons_append, decodeFrom, if_pos rfl,
      List.singleton_append, reference?_entity hentity hchars hlength]
    exact congrArg (c :: ·) hskip

/-- Decoding gives back what was spelled. -/
theorem decodeEntities_spellsAll {raw : Char → Bool} {cs ws : List Char}
    (h : SpellsAll raw cs ws) : decodeEntities ws = cs := by
  rw [decodeEntities]
  induction h with
  | nil => rfl
  | cons h hs ih => rw [decodeFrom_spells h, ih]

/-- A spelling has no other characters than those that may stand as themselves and those of
references. -/
lemma mem_spellsAll {raw : Char → Bool} {cs ws : List Char} (h : SpellsAll raw cs ws) {x : Char}
    (hx : x ∈ ws) : raw x ∨ isEntityChar x ∨ x = '&' ∨ x = ';' := by
  induction h with
  | nil => cases hx
  | cons h hs ih =>
    rcases List.mem_append.1 hx with hx | hx
    · rcases spells_cases h with ⟨hraw, -, rfl⟩ | ⟨entity, rfl, -, hchars, -⟩
      · rw [List.mem_singleton] at hx
        exact .inl (hx ▸ hraw)
      · rw [List.mem_append, List.mem_cons, List.mem_singleton] at hx
        rcases hx with (rfl | hx) | rfl
        · exact .inr (.inr (.inl rfl))
        · exact .inr (.inl (List.all_eq_true.1 hchars x hx))
        · exact .inr (.inr (.inr rfl))
    · exact ih hx

lemma not_mem_spellsAll {raw : Char → Bool} {cs ws : List Char} (h : SpellsAll raw cs ws)
    {x : Char} (hraw : raw x = false) (hentity : isEntityChar x = false)
    (hamp : x ≠ '&') (hsemicolon : x ≠ ';') : x ∉ ws := by
  intro hx
  rcases mem_spellsAll h hx with h | h | h | h
  · simp [hraw] at h
  · simp [hentity] at h
  · exact hamp h
  · exact hsemicolon h

lemma spellsAll_ne_nil {raw : Char → Bool} {cs ws : List Char} (h : SpellsAll raw cs ws)
    (hcs : cs ≠ []) : ws ≠ [] := by
  rintro rfl
  exact hcs (decodeEntities_spellsAll h).symm

end Unbundled.Markup
