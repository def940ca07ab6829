import Unbundled.Proofs.Markup.Reference
import Unbundled.Proofs.Text.Split
import Unbundled.Proofs.Text.Utf8
import Mathlib.Data.List.Induction

/-!
# What decoding does to a text

`Decodes` reads a text from left to right: every reference is replaced by its character, and every
other character stays. Decoding is this relation, on every text, where numbers may have a plus
sign; without plus signs it is the relation of the plain grammar. Texts that are put together at an
ampersand are decoded one by one.
-/

namespace Unbundled.Markup

/-- The digits `ds` stand for `n`. -/
inductive Numeral (radix : Nat) : List Char → Nat → Prop
  | digit {d : Char} {v : Nat} (h : digit? radix d = some v) : Numeral radix [d] v
  | snoc {ds : List Char} {d : Char} {n v : Nat} (hds : Numeral radix ds n)
      (h : digit? radix d = some v) : Numeral radix (ds ++ [d]) (radix * n + v)

/-- What may stand before the digits: a plus sign, if signs are allowed, or nothing. -/
def IsSign (signed : Bool) (sign : List Char) : Prop := sign = [] ∨ signed ∧ sign = ['+']

/-- What stands between `&` and `;`: the name of a character, or its number. -/
inductive Denotes (signed : Bool) : List Char → Char → Prop
  | named {name : List Char} {c : Char} (h : (name, c) ∈ namedReferences) : Denotes signed name c
  | decimal {sign ds : List Char} {c : Char} (hsign : IsSign signed sign)
      (h : Numeral 10 ds c.toNat) : Denotes signed ('#' :: (sign ++ ds)) c
  | hex {x : Char} {sign ds : List Char} {c : Char} (hx : x = 'x' ∨ x = 'X')
      (hsign : IsSign signed sign) (h : Numeral 16 ds c.toNat) :
      Denotes signed ('#' :: x :: (sign ++ ds)) c

/-- `w` is a reference to `c`; its semicolon stands at most ten octets behind the ampersand. -/
def IsReference (signed : Bool) (w : List Char) (c : Char) : Prop :=
  ∃ entity, w = '&' :: entity ++ [';'] ∧ Utf8.size entity ≤ 9 ∧ Denotes signed entity c

/-- The second text is the first one with its references replaced. -/
inductive Decodes (signed : Bool) : List Char → List Char → Prop
  | nil : Decodes signed [] []
  | reference {w rest out : List Char} {c : Char} (hw : IsReference signed w c)
      (h : Decodes signed rest out) : Decodes signed (w ++ rest) (c :: out)
  | kept {c : Char} {rest out : List Char}
      (hc : ∀ w d, IsReference signed w d → ¬ w <+: c :: rest)
      (h : Decodes signed rest out) : Decodes signed (c :: rest) (c :: out)

/-! ## Numbers -/

lemma number?_snoc (radix : Nat) (ds : List Char) (d : Char) :
    number? radix (ds ++ [d]) =
      ((if ds = [] then some 0 else number? radix ds).bind fun n =>
        (digit? radix d).map (radix * n + ·)) := by
  rw [number?_eq_foldlM (by simp), List.foldlM_append]
  by_cases hds : ds = []
  · simp [hds]
  · rw [if_neg hds, number?_eq_foldlM hds]
    simp

lemma number?_eq_some_iff {radix : Nat} {ds : List Char} {n : Nat} :
    number? radix ds = some n ↔ Numeral radix ds n := by
  constructor
  · intro h
    induction ds using List.reverseRecOn generalizing n with
    | nil => cases h
    | append_singleton ds d ih =>
      rw [number?_snoc, Option.bind_eq_some_iff] at h
      obtain ⟨m, hm, h⟩ := h
      obtain ⟨v, hv, rfl⟩ := Option.map_eq_some_iff.1 h
      by_cases hds : ds = []
      · rw [if_pos hds, Option.some.injEq] at hm
        subst hds hm
        simpa using Numeral.digit hv
      · rw [if_neg hds] at hm
        exact .snoc (ih hm) hv
  · intro h
    induction h with
    | digit h => simp [number?, h]
    | snoc hds h ih =>
      have hne : ∀ {ds n}, Numeral radix ds n → ds ≠ [] := by
        rintro ds n (_ | _) <;> simp
      rw [number?_snoc, if_neg (hne hds), ih, h]
      rfl

lemma scalar?_eq_some_iff {n : Nat} {c : Char} : scalar? n = some c ↔ n = c.toNat := by
  constructor
  · intro h
    unfold scalar? at h
    split at h
    next hvalid =>
      cases h
      exact (Utf8.toNat_char hvalid).symm
    next => cases h
  · rintro rfl
    exact scalar?_toNat c

lemma Numeral.digits {radix : Nat} {ds : List Char} {n : Nat} (h : Numeral radix ds n) :
    ds ≠ [] ∧ ∀ d ∈ ds, (digit? radix d).isSome := by
  induction h with
  | digit h => simp [h]
  | snoc hds h ih => simpa [or_imp, forall_and, h] using ih.2

lemma signedNumber?_eq_some_iff {radix : Nat} {cs : List Char} {n : Nat} :
    signedNumber? radix cs = some n ↔
      ∃ sign ds, cs = sign ++ ds ∧ IsSign true sign ∧ Numeral radix ds n := by
  have hplus : digit? radix '+' = none := by simp [digit?]
  constructor
  · intro h
    unfold signedNumber? at h
    split at h
    · exact ⟨['+'], _, rfl, .inr ⟨rfl, rfl⟩, number?_eq_some_iff.1 h⟩
    · exact ⟨[], cs, rfl, .inl rfl, number?_eq_some_iff.1 h⟩
  · rintro ⟨sign, ds, rfl, rfl | ⟨-, rfl⟩, hds⟩
    · obtain ⟨hne, hdigits⟩ := hds.digits
      obtain ⟨d, ds, rfl⟩ := List.exists_cons_of_ne_nil hne
      rw [List.nil_append, signedNumber?_cons, number?_eq_some_iff.2 hds]
      rintro rfl
      simp [hplus] at hdigits
    · exact number?_eq_some_iff.2 hds

/-- A number stands for the character of that number. -/
lemma numbered_eq_some_iff {radix : Nat} {cs : List Char} {c : Char} :
    (signedNumber? radix cs).bind scalar? = some c ↔
      ∃ sign ds, cs = sign ++ ds ∧ IsSign true sign ∧ Numeral radix ds c.toNat := by
  rw [Option.bind_eq_some_iff, ← signedNumber?_eq_some_iff]
  simp only [scalar?_eq_some_iff, exists_eq_right]

/-! ## References -/

lemma digit?_sixteen {d : Char} (h : (digit? 10 d).isSome) : (digit? 16 d).isSome := by
  unfold digit? at h ⊢
  grind

/-- A decimal number is not taken for a hexadecimal one. -/
lemma ne_hex_of_decimal {sign ds : List Char} {n : Nat} (hsign : IsSign true sign)
    (hds : Numeral 10 ds n) {x : Char} (hx : digit? 10 x = none) (hplus : x ≠ '+')
    (rest : List Char) : sign ++ ds ≠ x :: rest := by
  intro heq
  rcases hsign with rfl | ⟨-, rfl⟩
  · rw [List.nil_append] at heq
    have hdigit := hds.digits.2 x (by simp [heq])
    simp [hx] at hdigit
  · exact hplus (List.cons.inj heq).1.symm

lemma referenced?_eq_some_iff {entity : List Char} {c : Char} :
    referenced? entity = some c ↔ Denotes true entity c := by
  constructor
  · intro h
    unfold referenced? at h
    split at h
    next d hname =>
      cases h
      obtain ⟨before, after, hall, -⟩ := List.lookup_eq_some_iff.1 hname
      exact .named (by simp [hall])
    next =>
      split at h
      · obtain ⟨sign, ds, rfl, hsign, hds⟩ := numbered_eq_some_iff.1 h
        exact .hex (.inl rfl) hsign hds
      · obtain ⟨sign, ds, rfl, hsign, hds⟩ := numbered_eq_some_iff.1 h
        exact .hex (.inr rfl) hsign hds
      · obtain ⟨sign, ds, rfl, hsign, hds⟩ := numbered_eq_some_iff.1 h
        exact .decimal hsign hds
      · cases h
  · intro h
    cases h with
    | named h =>
      have hall : ∀ p ∈ namedReferences, referenced? p.1 = some p.2 := by decide
      exact hall _ h
    | @decimal sign ds _ hsign h =>
      rw [referenced?, lookup_hash]
      · exact numbered_eq_some_iff.2 ⟨sign, ds, rfl, hsign, h⟩
      · exact fun rest => ne_hex_of_decimal hsign h (by decide) (by decide) rest
      · exact fun rest => ne_hex_of_decimal hsign h (by decide) (by decide) rest
    | @hex x sign ds _ hx hsign h =>
      have hnumber := numbered_eq_some_iff.2 ⟨sign, ds, rfl, hsign, h⟩
      rcases hx with rfl | rfl <;> rw [referenced?, lookup_hash] <;> exact hnumber

/-- Neither an ampersand nor a semicolon stands inside a reference. -/
lemma Denotes.inside {signed : Bool} {entity : List Char} {c : Char} (h : Denotes signed entity c) :
    ∀ d ∈ entity, isEntityChar d ∨ d = '+' := by
  have hnumber {sign ds : List Char} (hsign : IsSign signed sign)
      (hdigits : ∀ d ∈ ds, (digit? 16 d).isSome) :
      ∀ d ∈ sign ++ ds, isEntityChar d ∨ d = '+' := by
    refine List.forall_mem_append.2 ⟨?_, fun d hd => .inl (isEntityChar_of_digit (hdigits d hd))⟩
    rcases hsign with rfl | ⟨-, rfl⟩ <;> simp
  cases h with
  | named h =>
    have hall : ∀ p ∈ namedReferences, p.1.all isEntityChar := by decide
    exact fun d hd => .inl (List.all_eq_true.1 (hall _ h) d hd)
  | decimal hsign h =>
    exact List.forall_mem_cons.2
      ⟨.inl rfl, hnumber hsign fun d hd => digit?_sixteen (h.digits.2 d hd)⟩
  | hex hx hsign h =>
    refine List.forall_mem_cons.2 ⟨.inl rfl, List.forall_mem_cons.2 ⟨.inl ?_, ?_⟩⟩
    · rcases hx with rfl | rfl <;> rfl
    · exact hnumber hsign h.digits.2

lemma Denotes.not_mem {signed : Bool} {entity : List Char} {c : Char} (h : Denotes signed entity c) :
    '&' ∉ entity ∧ ';' ∉ entity := by
  constructor <;> intro hmem <;> exact absurd (h.inside _ hmem) (by decide)

/-- What is read behind an ampersand is the reference that stands there. -/
lemma reference?_eq_some_iff {cs : List Char} {c : Char} {n : Nat} :
    reference? cs = some (c, n) ↔ ∃ entity rest, cs = entity ++ ';' :: rest ∧
      n = entity.length + 1 ∧ Utf8.size entity ≤ 9 ∧ Denotes true entity c := by
  unfold reference?
  dsimp only
  constructor
  · intro h
    split at h
    next hroom =>
      obtain ⟨d, hd, heq⟩ := Option.map_eq_some_iff.1 h
      obtain ⟨rfl, rfl⟩ := Prod.mk.inj heq
      have hsplit := List.takeWhile_append_dropWhile (p := fun c => decide (c ≠ ';')) (l := cs)
      cases hrest : cs.dropWhile (fun c => decide (c ≠ ';')) with
      | nil =>
        rw [hrest, List.append_nil] at hsplit
        rw [hsplit] at hroom
        exact absurd hroom.1 (Nat.lt_irrefl _)
      | cons x rest =>
        obtain ⟨rfl, -⟩ := Text.dropWhile_ne_eq_cons_iff.1 hrest
        rw [hrest] at hsplit
        exact ⟨_, rest, hsplit.symm, rfl, hroom.2, referenced?_eq_some_iff.1 hd⟩
    next => cases h
  · rintro ⟨entity, rest, rfl, rfl, hsize, h⟩
    have htake : (entity ++ ';' :: rest).takeWhile (· ≠ ';') = entity := by
      refine Text.takeWhile_append_stop (List.all_eq_true.2 fun d hd => ?_) (by simp)
      rw [decide_eq_true_iff]
      rintro rfl
      exact h.not_mem.2 hd
    rw [htake, if_pos ⟨by simp, hsize⟩, referenced?_eq_some_iff.2 h]
    rfl

/-! ## Texts -/

lemma decodes_decodeFrom (cs : List Char) : Decodes true cs (decodeFrom 0 cs) := by
  induction hlength : cs.length using Nat.strongRecOn generalizing cs with
  | ind n ih =>
    subst hlength
    cases cs with
    | nil => exact .nil
    | cons c cs =>
      have hkept (hc : ∀ w d, IsReference true w d → ¬ w <+: c :: cs) :
          Decodes true (c :: cs) (c :: decodeFrom 0 cs) :=
        .kept hc (ih _ (Nat.lt_succ_self _) cs rfl)
      rw [decodeFrom]
      by_cases hamp : c = '&'
      · subst hamp
        rw [if_pos rfl]
        cases href : reference? cs with
        | none =>
          apply hkept
          rintro w d ⟨entity, rfl, hsize, hentity⟩ ⟨rest, hprefix⟩
          have hcs : cs = entity ++ ';' :: rest := by simpa using hprefix.symm
          rw [reference?_eq_some_iff.2 ⟨entity, rest, hcs, rfl, hsize, hentity⟩] at href
          cases href
        | some found =>
          obtain ⟨d, length⟩ := found
          obtain ⟨entity, rest, rfl, rfl, hsize, hentity⟩ := reference?_eq_some_iff.1 href
          have hskip := decodeFrom_skip (entity ++ [';']) rest
          rw [List.length_append, List.append_assoc] at hskip
          have hcut : '&' :: (entity ++ ';' :: rest) = ('&' :: entity ++ [';']) ++ rest := by simp
          rw [hcut]
          refine .reference ⟨entity, rfl, hsize, hentity⟩ ?_
          exact hskip ▸ ih _ (by simp; omega) rest rfl
      · rw [if_neg hamp]
        apply hkept
        rintro w d ⟨entity, rfl, -⟩ hprefix
        exact hamp (List.cons_prefix_cons.1 hprefix).1.symm

lemma decodeFrom_of_decodes {cs out : List Char} (h : Decodes true cs out) :
    decodeFrom 0 cs = out := by
  induction h with
  | nil => rfl
  | @reference w rest out c hw h ih =>
    obtain ⟨entity, rfl, hsize, hentity⟩ := hw
    have hskip := decodeFrom_skip (entity ++ [';']) rest
    rw [List.length_append, List.append_assoc] at hskip
    have href := reference?_eq_some_iff.2 ⟨entity, rest, rfl, rfl, hsize, hentity⟩
    rw [List.append_assoc, List.cons_append, List.singleton_append, decodeFrom, if_pos rfl, href]
    exact congrArg (c :: ·) (hskip.trans ih)
  | @kept c rest out hc h ih =>
    rw [decodeFrom, ih]
    split
    next hamp =>
      subst hamp
      split
      next d length href =>
        obtain ⟨entity, after, rfl, -, hsize, hentity⟩ := reference?_eq_some_iff.1 href
        exact absurd ⟨after, by simp⟩ (hc _ d ⟨entity, rfl, hsize, hentity⟩)
      next => rfl
    next => rfl

/-- Decoding replaces the references, once and from left to right, and keeps everything else. -/
theorem decodeEntities_eq_iff {cs out : List Char} :
    decodeEntities cs = out ↔ Decodes true cs out := by
  constructor
  · rintro rfl
    exact decodes_decodeFrom cs
  · exact decodeFrom_of_decodes

example : decodeEntities "a&#+65;&amp;lt;".toList = "aA&lt;".toList := by decide

lemma IsReference.of_append {signed : Bool} {w cs bs : List Char} {c d : Char}
    (hw : IsReference signed w c) (h : w <+: d :: (cs ++ '&' :: bs)) : w <+: d :: cs := by
  obtain ⟨entity, rfl, -, hentity⟩ := hw
  have hamp : '&' ∉ entity ++ [';'] := by simp [hentity.not_mem.1]
  rw [List.cons_append, List.cons_prefix_cons] at h ⊢
  exact ⟨h.1, Text.prefix_of_stop h.2 hamp⟩

lemma Decodes.append {signed : Bool} {as bs x y : List Char} (has : Decodes signed as x)
    (hbs : Decodes signed ('&' :: bs) y) : Decodes signed (as ++ '&' :: bs) (x ++ y) := by
  induction has with
  | nil => exact hbs
  | reference hw h ih =>
    rw [List.append_assoc]
    exact .reference hw ih
  | kept hc h ih => exact .kept (fun w d hw hprefix => hc w d hw (hw.of_append hprefix)) ih

/-- No reference reaches over an ampersand. -/
theorem decodeEntities_append (as bs : List Char) :
    decodeEntities (as ++ '&' :: bs) = decodeEntities as ++ decodeEntities ('&' :: bs) :=
  decodeEntities_eq_iff.2 ((decodes_decodeFrom as).append (decodes_decodeFrom _))

/-! ## Texts without signs -/

lemma plus_not_mem {radix : Nat} {ds : List Char} {n : Nat} (h : Numeral radix ds n) :
    '+' ∉ ds := by
  intro hmem
  have hdigit := h.digits.2 _ hmem
  simp [digit?] at hdigit

lemma isSign_false_iff {sign : List Char} :
    IsSign false sign ↔ IsSign true sign ∧ '+' ∉ sign := by
  constructor
  · rintro (rfl | ⟨hsigned, -⟩)
    · exact ⟨.inl rfl, by simp⟩
    · cases hsigned
  · rintro ⟨rfl | ⟨-, rfl⟩, hplus⟩
    · exact .inl rfl
    · simp at hplus

lemma denotes_false_iff {entity : List Char} {c : Char} :
    Denotes false entity c ↔ Denotes true entity c ∧ '+' ∉ entity := by
  constructor
  · intro h
    cases h with
    | named h =>
      have hall : ∀ p ∈ namedReferences, '+' ∉ p.1 := by decide
      exact ⟨.named h, hall _ h⟩
    | decimal hsign h =>
      obtain ⟨hsign, hplus⟩ := isSign_false_iff.1 hsign
      exact ⟨.decimal hsign h, by simp [hplus, plus_not_mem h]⟩
    | hex hx hsign h =>
      obtain ⟨hsign, hplus⟩ := isSign_false_iff.1 hsign
      refine ⟨.hex hx hsign h, ?_⟩
      rcases hx with rfl | rfl <;> simp [hplus, plus_not_mem h]
  · rintro ⟨h, hplus⟩
    cases h with
    | named h => exact .named h
    | decimal hsign h =>
      exact .decimal (isSign_false_iff.2 ⟨hsign, fun hmem => hplus (by simp [hmem])⟩) h
    | hex hx hsign h =>
      exact .hex hx (isSign_false_iff.2 ⟨hsign, fun hmem => hplus (by simp [hmem])⟩) h

lemma isReference_false_iff {w : List Char} {c : Char} :
    IsReference false w c ↔ IsReference true w c ∧ '+' ∉ w := by
  constructor
  · rintro ⟨entity, rfl, hsize, h⟩
    obtain ⟨h, hplus⟩ := denotes_false_iff.1 h
    exact ⟨⟨entity, rfl, hsize, h⟩, by simp [hplus]⟩
  · rintro ⟨⟨entity, rfl, hsize, h⟩, hplus⟩
    exact ⟨entity, rfl, hsize, denotes_false_iff.2 ⟨h, fun hmem => hplus (by simp [hmem])⟩⟩

lemma decodes_false_of_unsigned {cs out : List Char} (h : Decodes true cs out)
    (hcs : ∀ w c, IsReference true w c → w <:+: cs → '+' ∉ w) : Decodes false cs out := by
  induction h with
  | nil => exact .nil
  | @reference w rest out c hw h ih =>
    have hplus := hcs w c hw (List.prefix_append w rest).isInfix
    exact .reference (isReference_false_iff.2 ⟨hw, hplus⟩) (ih fun v d hv hwithin =>
      hcs v d hv (hwithin.trans (List.suffix_append w rest).isInfix))
  | @kept c rest out hc h ih =>
    exact .kept (fun w d hw => hc w d (isReference_false_iff.1 hw).1) (ih fun w d hw hwithin =>
      hcs w d hw (hwithin.trans (List.suffix_cons c rest).isInfix))

/-- Where no reference has a sign, numbers are made of digits alone. -/
theorem decodes_of_unsigned {cs : List Char}
    (h : ∀ w c, IsReference true w c → w <:+: cs → '+' ∉ w) :
    Decodes false cs (decodeEntities cs) :=
  decodes_false_of_unsigned (decodes_decodeFrom cs) h

end Unbundled.Markup
