import Unbundled.Text.Percent
import Mathlib.Tactic.Lemma

/-!
# Percent-escapes

What a sequence of octets with escapes stands for, said without the decoder, and the many ways to
write octets with escapes, all of which are read back.
-/

namespace Unbundled.Percent

/-- `b` is the hexadecimal digit of `d`, in either case. -/
def IsDigit (b : UInt8) (d : Nat) : Prop :=
  d < 16 ∧ (b.toNat = d.digitChar.toNat ∨ b.toNat = d.digitChar.toUpper.toNat)

/-- `%` and the digits `h` and `l` stand for `b`. -/
def IsEscape (h l b : UInt8) : Prop :=
  ∃ x y, IsDigit h x ∧ IsDigit l y ∧ b.toNat = x * 16 + y

/-- What octets with escapes stand for. A `%` that no two digits follow stands for itself. -/
inductive Reads : List UInt8 → List UInt8 → Prop
  | nil : Reads [] []
  | escape {h l b : UInt8} {bs octets : List UInt8} (hb : IsEscape h l b)
      (hs : Reads bs octets) : Reads (0x25 :: h :: l :: bs) (b :: octets)
  | plain {p : UInt8} {bs octets : List UInt8}
      (hp : ∀ h l b rest, IsEscape h l b → p :: bs ≠ 0x25 :: h :: l :: rest)
      (hs : Reads bs octets) : Reads (p :: bs) (p :: octets)

/-- A way to write octets: each of them as itself, unless it is a `%`, or as an escape. -/
inductive Writes : List UInt8 → List UInt8 → Prop
  | nil : Writes [] []
  | raw {b : UInt8} {octets bs : List UInt8} (hb : b ≠ 0x25) (hs : Writes octets bs) :
      Writes (b :: octets) (b :: bs)
  | escape {h l b : UInt8} {octets bs : List UInt8} (hb : IsEscape h l b)
      (hs : Writes octets bs) : Writes (b :: octets) (0x25 :: h :: l :: bs)

/-! ## Digits -/

lemma hexDigit?_of_isDigit {b : UInt8} {d : Nat} (h : IsDigit b d) :
    hexDigit? b = some (UInt8.ofNat d) := by
  have hall : ∀ d < 16, hexDigit? (UInt8.ofNat d.digitChar.toNat) = some (UInt8.ofNat d) ∧
      hexDigit? (UInt8.ofNat d.digitChar.toUpper.toNat) = some (UInt8.ofNat d) := by decide
  obtain ⟨hd, hb | hb⟩ := h
  · rw [← @UInt8.ofNat_toNat b, hb, (hall d hd).1]
  · rw [← @UInt8.ofNat_toNat b, hb, (hall d hd).2]

lemma isDigit_of_hexDigit? {b x : UInt8} (h : hexDigit? b = some x) : IsDigit b x.toNat := by
  have hdecimal : ∀ d < 10, d.digitChar.toNat = d + 0x30 := by decide
  have hupper : ∀ d < 16, 10 ≤ d → d.digitChar.toUpper.toNat = d + 0x37 := by decide
  have hlower : ∀ d < 16, 10 ≤ d → d.digitChar.toNat = d + 0x57 := by decide
  unfold hexDigit? at h
  split at h
  · next hb =>
    have hx : x.toNat = b.toNat - 0x30 := by
      rw [← Option.some.inj h]
      exact UInt8.toNat_sub_of_le _ _ hb.1
    have hlow : 0x30 ≤ b.toNat := UInt8.le_iff_toNat_le.1 hb.1
    have hhigh : b.toNat ≤ 0x39 := UInt8.le_iff_toNat_le.1 hb.2
    refine ⟨by omega, .inl ?_⟩
    rw [hdecimal _ (by omega)]
    omega
  · split at h
    · next hb =>
      have hx : x.toNat = b.toNat - 0x37 := by
        rw [← Option.some.inj h]
        exact UInt8.toNat_sub_of_le _ _ (UInt8.le_trans (by decide) hb.1)
      have hlow : 0x41 ≤ b.toNat := UInt8.le_iff_toNat_le.1 hb.1
      have hhigh : b.toNat ≤ 0x46 := UInt8.le_iff_toNat_le.1 hb.2
      refine ⟨by omega, .inr ?_⟩
      rw [hupper _ (by omega) (by omega)]
      omega
    · split at h
      · next hb =>
        have hx : x.toNat = b.toNat - 0x57 := by
          rw [← Option.some.inj h]
          exact UInt8.toNat_sub_of_le _ _ (UInt8.le_trans (by decide) hb.1)
        have hlow : 0x61 ≤ b.toNat := UInt8.le_iff_toNat_le.1 hb.1
        have hhigh : b.toNat ≤ 0x66 := UInt8.le_iff_toNat_le.1 hb.2
        refine ⟨by omega, .inl ?_⟩
        rw [hlower _ (by omega) (by omega)]
        omega
      · cases h

lemma toNat_pair {x y : UInt8} (hx : x.toNat < 16) (hy : y.toNat < 16) :
    (x * 16 + y).toNat = x.toNat * 16 + y.toNat := by
  have hsixteen : UInt8.toNat 16 = 16 := rfl
  rw [UInt8.toNat_add, UInt8.toNat_mul, hsixteen]
  omega

/-- The decoder takes two octets for an escape exactly when they are digits. -/
lemma escaped?_eq_some_iff {h l b : UInt8} : escaped? h l = some b ↔ IsEscape h l b := by
  constructor
  · intro hb
    simp only [escaped?, Option.bind_eq_bind, Option.bind_eq_some_iff, Option.pure_def,
      Option.some.injEq] at hb
    obtain ⟨x, hx, y, hy, rfl⟩ := hb
    have hxd := isDigit_of_hexDigit? hx
    have hyd := isDigit_of_hexDigit? hy
    exact ⟨x.toNat, y.toNat, hxd, hyd, toNat_pair hxd.1 hyd.1⟩
  · rintro ⟨x, y, hx, hy, hb⟩
    have hsmall : ∀ d < 16, (UInt8.ofNat d).toNat = d := by decide
    have hx' := hsmall x hx.1
    have hy' := hsmall y hy.1
    have hpair : UInt8.ofNat x * 16 + UInt8.ofNat y = b := by
      rw [← UInt8.toNat_inj, toNat_pair (hx'.symm ▸ hx.1) (hy'.symm ▸ hy.1), hx', hy', hb]
    rw [escaped?, hexDigit?_of_isDigit hx, hexDigit?_of_isDigit hy, ← hpair]
    rfl

/-! ## Octets are read back -/

lemma decode_escape {h l b : UInt8} (hb : IsEscape h l b) (rest : List UInt8) :
    decode (0x25 :: h :: l :: rest) = b :: decode rest := by
  rw [decode, if_pos rfl, escaped?_eq_some_iff.2 hb]

lemma decode_plain {p : UInt8} {bs : List UInt8}
    (hp : ∀ h l b rest, IsEscape h l b → p :: bs ≠ 0x25 :: h :: l :: rest) :
    decode (p :: bs) = p :: decode bs := by
  match bs with
  | [] => rfl
  | [_] => rfl
  | h :: l :: rest =>
    rw [decode]
    split
    · next hpercent =>
      cases hb : escaped? h l with
      | none => rfl
      | some b =>
        rw [hpercent] at hp
        exact absurd rfl (hp h l b rest (escaped?_eq_some_iff.1 hb))
    · rfl

lemma exists_reads (bs : List UInt8) : Reads bs (decode bs) := by
  induction hn : bs.length using Nat.strongRecOn generalizing bs with
  | ind n ih =>
    subst hn
    cases bs with
    | nil => exact .nil
    | cons p bs =>
      by_cases hescape : ∃ h l b rest, IsEscape h l b ∧ p :: bs = 0x25 :: h :: l :: rest
      · obtain ⟨h, l, b, rest, hb, heq⟩ := hescape
        rw [heq, decode_escape hb]
        refine .escape hb (ih rest.length ?_ rest rfl)
        rw [heq]
        simp only [List.length_cons]
        omega
      · have hp : ∀ h l b rest, IsEscape h l b → p :: bs ≠ 0x25 :: h :: l :: rest :=
          fun h l b rest hb heq => hescape ⟨h, l, b, rest, hb, heq⟩
        rw [decode_plain hp]
        exact .plain hp (ih bs.length (Nat.lt_succ_self _) bs rfl)

lemma Reads.eq_decode {bs octets : List UInt8} (h : Reads bs octets) : octets = decode bs := by
  induction h with
  | nil => rfl
  | escape hb hs ih => rw [decode_escape hb, ih]
  | plain hp hs ih => rw [decode_plain hp, ih]

/-- Octets with escapes stand for what the decoder makes of them, and for nothing else. -/
theorem reads_iff {bs octets : List UInt8} : Reads bs octets ↔ octets = decode bs := by
  constructor
  · exact Reads.eq_decode
  · rintro rfl
    exact exists_reads bs

/-- Whichever way octets are written, they are read back. -/
theorem Writes.reads {octets bs : List UInt8} (h : Writes octets bs) : Reads bs octets := by
  induction h with
  | nil => exact .nil
  | raw hb hs ih => exact .plain (fun h l b rest _ heq => hb (List.cons.inj heq).1) ih
  | escape hb hs ih => exact .escape hb ih

/-- Octets without a `%` may be written as they are. -/
lemma writes_self {bs : List UInt8} (h : 0x25 ∉ bs) : Writes bs bs := by
  induction bs with
  | nil => exact .nil
  | cons b bs ih =>
    rw [List.mem_cons, not_or] at h
    exact .raw (Ne.symm h.1) (ih h.2)

lemma Writes.append {as bs octets more : List UInt8} (ha : Writes octets as)
    (hb : Writes more bs) : Writes (octets ++ more) (as ++ bs) := by
  induction ha with
  | nil => exact hb
  | raw hraw hs ih => exact .raw hraw ih
  | escape hescape hs ih => exact .escape hescape ih

end Unbundled.Percent
