import Unbundled.Text.Utf8
import Mathlib.Tactic.Lemma

/-!
# Reading UTF-8 back

The octets that a text is written with are read as that text, and no other octets are read as a
text at all.
-/

namespace Unbundled.Utf8

/-! ## What a first octet says -/

/-- The least octet that may follow a first octet. It leaves out overlong forms. -/
def secondLow (lead : Nat) : UInt8 :=
  if lead = 0xE0 then 0xA0 else if lead = 0xF0 then 0x90 else 0x80

/-- The greatest octet that may follow a first octet. It leaves out surrogates and what lies above
the last character. -/
def secondHigh (lead : Nat) : UInt8 :=
  if lead = 0xED then 0x9F else if lead = 0xF4 then 0x8F else 0xBF

section Lead

variable {b : UInt8}

lemma ofOctet_one (h : b.toNat < 0x80) : Lead.ofOctet b = .whole (Char.ofNat b.toNat) := by
  simp [Lead.ofOctet, h]

lemma ofOctet_two (h : 0xC2 ≤ b.toNat) (h' : b.toNat < 0xE0) :
    Lead.ofOctet b = .starts ⟨1, 0x80, 0xBF, b.toNat - 0xC0⟩ := by
  have h1 : ¬ b.toNat < 0x80 := by omega
  have h2 : ¬ b.toNat < 0xC2 := by omega
  simp [Lead.ofOctet, h1, h2, h']

lemma ofOctet_three (h : 0xE0 ≤ b.toNat) (h' : b.toNat < 0xF0) : Lead.ofOctet b =
    .starts ⟨2, secondLow b.toNat, secondHigh b.toNat, b.toNat - 0xE0⟩ := by
  have h1 : ¬ b.toNat < 0x80 := by omega
  have h2 : ¬ b.toNat < 0xC2 := by omega
  have h3 : ¬ b.toNat < 0xE0 := by omega
  have hf0 : b.toNat ≠ 0xF0 := by omega
  have hf4 : b.toNat ≠ 0xF4 := by omega
  unfold Lead.ofOctet secondLow secondHigh
  by_cases he0 : b.toNat = 0xE0
  · simp [he0]
  · by_cases hed : b.toNat = 0xED
    · simp [hed]
    · simp [h1, h2, h3, he0, hed, hf0, hf4, h']

lemma ofOctet_four (h : 0xF0 ≤ b.toNat) (h' : b.toNat ≤ 0xF4) : Lead.ofOctet b =
    .starts ⟨3, secondLow b.toNat, secondHigh b.toNat, b.toNat - 0xF0⟩ := by
  have h1 : ¬ b.toNat < 0x80 := by omega
  have h2 : ¬ b.toNat < 0xC2 := by omega
  have h3 : ¬ b.toNat < 0xE0 := by omega
  have h4 : ¬ b.toNat < 0xF0 := by omega
  have he0 : b.toNat ≠ 0xE0 := by omega
  have hed : b.toNat ≠ 0xED := by omega
  unfold Lead.ofOctet secondLow secondHigh
  by_cases hf0 : b.toNat = 0xF0
  · simp [hf0]
  · by_cases hf4 : b.toNat = 0xF4
    · simp [hf4]
    · have h5 : b.toNat < 0xF4 := by omega
      simp [h1, h2, h3, h4, he0, hed, hf0, hf4, h5]

lemma ofOctet_invalid (h : 0x80 ≤ b.toNat ∧ b.toNat < 0xC2 ∨ 0xF4 < b.toNat) :
    Lead.ofOctet b = .invalid := by
  have h1 : ¬ b.toNat < 0x80 := by omega
  unfold Lead.ofOctet
  by_cases h2 : b.toNat < 0xC2
  · simp [h1, h2]
  · have h3 : ¬ b.toNat < 0xE0 := by omega
    have h4 : ¬ b.toNat < 0xF0 := by omega
    have h5 : ¬ b.toNat < 0xF4 := by omega
    have he0 : b.toNat ≠ 0xE0 := by omega
    have hed : b.toNat ≠ 0xED := by omega
    have hf0 : b.toNat ≠ 0xF0 := by omega
    have hf4 : b.toNat ≠ 0xF4 := by omega
    simp [h1, h2, h3, h4, h5, he0, hed, hf0, hf4]

end Lead

lemma secondLow_le_iff {lead n : Nat} : (secondLow lead).toNat ≤ n ↔
    0x80 ≤ n ∧ (lead = 0xE0 → 0xA0 ≤ n) ∧ (lead = 0xF0 → 0x90 ≤ n) := by
  unfold secondLow
  split
  · change 0xA0 ≤ n ↔ _
    omega
  · split
    · change 0x90 ≤ n ↔ _
      omega
    · change 0x80 ≤ n ↔ _
      omega

lemma le_secondHigh_iff {lead n : Nat} : n ≤ (secondHigh lead).toNat ↔
    n ≤ 0xBF ∧ (lead = 0xED → n ≤ 0x9F) ∧ (lead = 0xF4 → n ≤ 0x8F) := by
  unfold secondHigh
  split
  · change n ≤ 0x9F ↔ _
    omega
  · split
    · change n ≤ 0x8F ↔ _
      omega
    · change n ≤ 0xBF ↔ _
      omega

/-! ## The octets of a character -/

lemma toNat_octet {n : Nat} (h : n < 256) : (UInt8.ofNat n).toNat = n := by
  rw [UInt8.toNat_ofNat']
  exact Nat.mod_eq_of_lt h

/-- An octet behind the first one, with the last six bits of a number. -/
def tail (n : Nat) : UInt8 := UInt8.ofNat (n % 64 + 0x80)

lemma toNat_tail (n : Nat) : (tail n).toNat = n % 64 + 0x80 := toNat_octet (by omega)

lemma tail_eq {n : Nat} {b : UInt8} (h : b.toNat = n % 64 + 0x80) : tail n = b := by
  rw [tail, ← h, UInt8.ofNat_toNat]

section Octets

variable {c : Char}

lemma octets_one (h : c.toNat ≤ 0x7F) : String.utf8EncodeChar c = [UInt8.ofNat c.toNat] :=
  if_pos h

lemma octets_two (h : 0x7F < c.toNat) (h' : c.toNat ≤ 0x7FF) : String.utf8EncodeChar c =
    [UInt8.ofNat (c.toNat / 64 % 32 + 0xC0), tail c.toNat] :=
  (if_neg (Nat.not_le.2 h)).trans (if_pos h')

lemma octets_three (h : 0x7FF < c.toNat) (h' : c.toNat ≤ 0xFFFF) : String.utf8EncodeChar c =
    [UInt8.ofNat (c.toNat / 4096 % 16 + 0xE0), tail (c.toNat / 64), tail c.toNat] := by
  have hone : ¬ c.toNat ≤ 0x7F := by omega
  exact (if_neg hone).trans ((if_neg (Nat.not_le.2 h)).trans (if_pos h'))

lemma octets_four (h : 0xFFFF < c.toNat) : String.utf8EncodeChar c =
    [UInt8.ofNat (c.toNat / 262144 % 8 + 0xF0), tail (c.toNat / 4096), tail (c.toNat / 64),
      tail c.toNat] := by
  have hone : ¬ c.toNat ≤ 0x7F := by omega
  have htwo : ¬ c.toNat ≤ 0x7FF := by omega
  exact (if_neg hone).trans ((if_neg htwo).trans (if_neg (Nat.not_le.2 h)))

lemma le_of_mem_octets {b : UInt8} (h : 0x7F < c.toNat) (hb : b ∈ String.utf8EncodeChar c) :
    0x80 ≤ b.toNat := by
  have htail (n : Nat) : 0x80 ≤ (tail n).toNat := by
    rw [toNat_tail]
    omega
  have hlead (n : Nat) (hn : 0x80 ≤ n ∧ n < 256) : 0x80 ≤ (UInt8.ofNat n).toNat := by
    rw [toNat_octet hn.2]
    exact hn.1
  rcases Nat.lt_or_ge 0x7FF c.toNat with h2 | h2
  · rcases Nat.lt_or_ge 0xFFFF c.toNat with h3 | h3
    · rw [octets_four h3, List.mem_cons, List.mem_cons, List.mem_cons, List.mem_singleton] at hb
      rcases hb with rfl | rfl | rfl | rfl
      · exact hlead _ (by omega)
      all_goals exact htail _
    · rw [octets_three h2 h3, List.mem_cons, List.mem_cons, List.mem_singleton] at hb
      rcases hb with rfl | rfl | rfl
      · exact hlead _ (by omega)
      all_goals exact htail _
  · rw [octets_two h h2, List.mem_cons, List.mem_singleton] at hb
    rcases hb with rfl | rfl
    · exact hlead _ (by omega)
    · exact htail _

end Octets

/-! ## The octets of a text -/

@[simp] lemma encode_nil : encode [] = [] := rfl

@[simp] lemma encode_cons (c : Char) (cs : List Char) :
    encode (c :: cs) = String.utf8EncodeChar c ++ encode cs := List.flatMap_cons

@[simp] lemma encode_append (as bs : List Char) : encode (as ++ bs) = encode as ++ encode bs :=
  List.flatMap_append

@[simp] lemma length_encode (cs : List Char) : (encode cs).length = size cs := by
  induction cs with
  | nil => rfl
  | cons c cs ih =>
    rw [encode_cons, List.length_append, String.length_utf8EncodeChar, ih, size_cons]

/-- A string takes the octets of its characters. -/
lemma utf8ByteSize_eq (s : String) : s.utf8ByteSize = size s.toList := by
  rw [← length_encode, encode, ← List.size_toByteArray]
  change s.toByteArray.size = _
  rw [← String.ofList_toList (s := s), String.toByteArray_ofList, String.toList_ofList]
  rfl

lemma splitAt?_append (before rest : List Char) :
    splitAt? (size before) (before ++ rest) = some (before, rest) := by
  induction before with
  | nil => rw [size_nil, List.nil_append, splitAt?]
  | cons c before ih =>
    have hpos := c.utf8Size_pos
    obtain ⟨n, hn⟩ : ∃ n, size (c :: before) = n + 1 :=
      ⟨c.utf8Size + size before - 1, by rw [size_cons]; omega⟩
    have hrest : n + 1 - c.utf8Size = size before := by
      rw [← hn, size_cons, Nat.add_sub_cancel_left]
    rw [hn, List.cons_append, splitAt?, if_pos (by rw [← hn, size_cons]; omega), hrest, ih]
    rfl

/-- A text is cut behind a first part that takes so many octets. -/
lemma splitAt?_eq_some_iff {n : Nat} {cs before rest : List Char} :
    splitAt? n cs = some (before, rest) ↔ cs = before ++ rest ∧ size before = n := by
  constructor
  · intro h
    fun_induction splitAt? n cs generalizing before with
    | case1 cs =>
      cases h
      exact ⟨rfl, rfl⟩
    | case2 n => cases h
    | case3 n c cs hle ih =>
      obtain ⟨⟨before', rest'⟩, hsplit, hcut⟩ := Option.map_eq_some_iff.1 h
      cases hcut
      obtain ⟨rfl, hsize⟩ := ih hsplit
      exact ⟨rfl, by rw [size_cons, hsize]; omega⟩
    | case4 n c cs hle => cases h
  · rintro ⟨rfl, rfl⟩
    exact splitAt?_append before rest

/-- An ASCII octet is written for the character of its number alone. -/
lemma mem_encode_ascii {b : UInt8} {cs : List Char} (hb : b.toNat < 0x80) (h : b ∈ encode cs) :
    Char.ofNat b.toNat ∈ cs := by
  obtain ⟨c, hc, hmem⟩ := List.mem_flatMap.1 h
  rcases Nat.lt_or_ge 0x7F c.toNat with hlarge | hsmall
  · have hle := le_of_mem_octets hlarge hmem
    omega
  · rw [octets_one hsmall, List.mem_singleton] at hmem
    rw [hmem, toNat_octet (by omega), Char.ofNat_toNat]
    exact hc

/-! ## Octets behind the first one -/

lemma scan_starts {b : UInt8} {p : Pending} (h : Lead.ofOctet b = .starts p) (bs : List UInt8) :
    scan none (b :: bs) = scan (some p) bs := by
  rw [scan, h]

section Pending

variable {low high : UInt8} {owed bits n : Nat}

lemma tail_between (hlow : low.toNat ≤ n % 64 + 0x80) (hhigh : n % 64 + 0x80 ≤ high.toNat) :
    low ≤ tail n ∧ tail n ≤ high := by
  rw [UInt8.le_iff_toNat_le, UInt8.le_iff_toNat_le, toNat_tail]
  exact ⟨hlow, hhigh⟩

lemma tail_sub (n : Nat) : (tail n).toNat - 0x80 = n % 64 := by
  have hn := toNat_tail n
  omega

lemma tail_low : UInt8.toNat 0x80 ≤ n % 64 + 0x80 := Nat.le_add_left _ _

lemma tail_high : n % 64 + 0x80 ≤ UInt8.toNat 0xBF := by
  change n % 64 + 0x80 ≤ 0xBF
  omega

lemma scan_more (hlow : low.toNat ≤ n % 64 + 0x80) (hhigh : n % 64 + 0x80 ≤ high.toNat)
    (rest : List UInt8) : scan (some ⟨owed + 2, low, high, bits⟩) (tail n :: rest) =
      scan (some ⟨owed + 1, 0x80, 0xBF, bits * 64 + n % 64⟩) rest := by
  rw [scan, if_pos (tail_between hlow hhigh), tail_sub]
  exact if_neg (by simp)

lemma scan_last (rest : List UInt8) : scan (some ⟨1, 0x80, 0xBF, bits⟩) (tail n :: rest) =
    some (Char.ofNat (bits * 64 + n % 64)) :: scan none rest := by
  rw [scan, if_pos (tail_between tail_low tail_high), tail_sub]
  exact if_pos (Nat.le_refl 1)

end Pending

/-! ## Texts are read back -/

lemma scan_octets (c : Char) (rest : List UInt8) :
    scan none (String.utf8EncodeChar c ++ rest) = some c :: scan none rest := by
  have hvalid : c.toNat.isValidChar := c.valid
  rcases Nat.lt_or_ge 0x7F c.toNat with h1 | h1
  · rcases Nat.lt_or_ge 0x7FF c.toNat with h2 | h2
    · rcases Nat.lt_or_ge 0xFFFF c.toNat with h3 | h3
      · -- four octets
        have hlead : (UInt8.ofNat (c.toNat / 262144 % 8 + 0xF0)).toNat =
            c.toNat / 262144 % 8 + 0xF0 := toNat_octet (by omega)
        have hbits : (((c.toNat / 262144 % 8 + 0xF0 - 0xF0) * 64 + c.toNat / 4096 % 64) * 64 +
            c.toNat / 64 % 64) * 64 + c.toNat % 64 = c.toNat := by omega
        rw [octets_four h3]
        change scan none (_ :: tail (c.toNat / 4096) :: tail (c.toNat / 64) ::
          tail c.toNat :: rest) = _
        rw [scan_starts (ofOctet_four (by omega) (by omega)), hlead,
          scan_more (secondLow_le_iff.2 (by omega)) (le_secondHigh_iff.2 (by omega)),
          scan_more tail_low tail_high, scan_last, hbits, Char.ofNat_toNat]
      · -- three octets
        have hlead : (UInt8.ofNat (c.toNat / 4096 % 16 + 0xE0)).toNat =
            c.toNat / 4096 % 16 + 0xE0 := toNat_octet (by omega)
        have hbits : ((c.toNat / 4096 % 16 + 0xE0 - 0xE0) * 64 + c.toNat / 64 % 64) * 64 +
            c.toNat % 64 = c.toNat := by omega
        rw [octets_three h2 h3]
        change scan none (_ :: tail (c.toNat / 64) :: tail c.toNat :: rest) = _
        rw [scan_starts (ofOctet_three (by omega) (by omega)), hlead,
          scan_more (secondLow_le_iff.2 (by omega)) (le_secondHigh_iff.2 (by omega)), scan_last,
          hbits, Char.ofNat_toNat]
    · -- two octets
      have hlead : (UInt8.ofNat (c.toNat / 64 % 32 + 0xC0)).toNat = c.toNat / 64 % 32 + 0xC0 :=
        toNat_octet (by omega)
      have hbits : (c.toNat / 64 % 32 + 0xC0 - 0xC0) * 64 + c.toNat % 64 = c.toNat := by omega
      rw [octets_two h1 h2]
      change scan none (_ :: tail c.toNat :: rest) = _
      rw [scan_starts (ofOctet_two (by omega) (by omega)), hlead, scan_last, hbits,
        Char.ofNat_toNat]
  · -- one octet
    have hlead : (UInt8.ofNat c.toNat).toNat = c.toNat := toNat_octet (by omega)
    rw [octets_one h1]
    change scan none (UInt8.ofNat c.toNat :: rest) = _
    rw [scan, ofOctet_one (by omega), hlead, Char.ofNat_toNat]

lemma scan_encode (cs : List Char) : scan none (encode cs) = cs.map some := by
  induction cs with
  | nil => rfl
  | cons c cs ih =>
    change scan none (String.utf8EncodeChar c ++ encode cs) = _
    rw [scan_octets, ih, List.map_cons]

/-! ## What is read is what was written -/

lemma cons_eq_map_some {c : Char} {rest : List (Option Char)} {cs : List Char}
    (h : some c :: rest = cs.map some) : ∃ cs', cs = c :: cs' ∧ rest = cs'.map some := by
  cases cs with
  | nil => cases h
  | cons c' cs' =>
    rw [List.map_cons, List.cons.injEq, Option.some.injEq] at h
    exact ⟨cs', by rw [h.1], h.2⟩

/-- A character that has begun goes on with an octet between its bounds. -/
lemma exists_tail {low high : UInt8} {owed bits : Nat} {bs : List UInt8} {cs : List Char}
    (hlow : 0x80 ≤ low.toNat) (hhigh : high.toNat ≤ 0xBF)
    (h : scan (some ⟨owed, low, high, bits⟩) bs = cs.map some) :
    ∃ n rest, n < 64 ∧ bs = tail n :: rest ∧ low.toNat ≤ n % 64 + 0x80 ∧
      n % 64 + 0x80 ≤ high.toNat := by
  have hhead : (scan (some ⟨owed, low, high, bits⟩) bs).head? ≠ some none := by
    rw [h]
    cases cs <;> simp
  cases bs with
  | nil => exact absurd rfl hhead
  | cons b rest =>
    by_cases hbounds : low ≤ b ∧ b ≤ high
    · rw [UInt8.le_iff_toNat_le, UInt8.le_iff_toNat_le] at hbounds
      have hb : b.toNat = (b.toNat - 0x80) % 64 + 0x80 := by omega
      exact ⟨b.toNat - 0x80, rest, by omega, by rw [tail_eq hb], by omega, by omega⟩
    · rw [scan, if_neg hbounds] at hhead
      cases hlead : Lead.ofOctet b <;> simp [hlead] at hhead

lemma toNat_char {n : Nat} (h : n.isValidChar) : (Char.ofNat n).toNat = n := by
  unfold Char.ofNat
  rw [dif_pos h]
  rfl

lemma octet_eq {n : Nat} {b : UInt8} (h : n = b.toNat) : UInt8.ofNat n = b := by
  rw [h, UInt8.ofNat_toNat]

lemma tail_congr {m n : Nat} (h : m % 64 = n % 64) : tail m = tail n := by
  rw [tail, tail, h]

section Begun

variable {b : UInt8} {bs : List UInt8} {cs : List Char}

/-- The octets begin with those of the first character, and the rest is read as the others. -/
def Begins (bs : List UInt8) (cs : List Char) : Prop :=
  ∃ c cs' rest, cs = c :: cs' ∧ bs = String.utf8EncodeChar c ++ rest ∧
    scan none rest = cs'.map some

lemma begins_one (hb : b.toNat < 0x80) (h : scan none (b :: bs) = cs.map some) :
    Begins (b :: bs) cs := by
  rw [scan, ofOctet_one hb] at h
  obtain ⟨cs', rfl, hrest⟩ := cons_eq_map_some h
  have hc : (Char.ofNat b.toNat).toNat = b.toNat := toNat_char (by omega)
  refine ⟨_, cs', bs, rfl, ?_, hrest⟩
  rw [octets_one (by omega), hc, UInt8.ofNat_toNat, List.singleton_append]

lemma begins_two (hb : 0xC2 ≤ b.toNat) (hb' : b.toNat < 0xE0)
    (h : scan none (b :: bs) = cs.map some) : Begins (b :: bs) cs := by
  rw [scan_starts (ofOctet_two hb hb')] at h
  obtain ⟨n, rest, hn, rfl, -, -⟩ := exists_tail (by decide) (by decide) h
  rw [scan_last] at h
  obtain ⟨cs', rfl, hrest⟩ := cons_eq_map_some h
  obtain ⟨v, hv⟩ : ∃ v, v = (b.toNat - 0xC0) * 64 + n % 64 := ⟨_, rfl⟩
  have hc : (Char.ofNat v).toNat = v := toNat_char (by omega)
  have hlead : UInt8.ofNat (v / 64 % 32 + 0xC0) = b := octet_eq (by omega)
  have hlast : tail v = tail n := tail_congr (by omega)
  refine ⟨Char.ofNat v, cs', rest, by rw [hv], ?_, hrest⟩
  rw [octets_two (by omega) (by omega), hc, hlead, hlast]
  rfl

lemma begins_three (hb : 0xE0 ≤ b.toNat) (hb' : b.toNat < 0xF0)
    (h : scan none (b :: bs) = cs.map some) : Begins (b :: bs) cs := by
  rw [scan_starts (ofOctet_three hb hb')] at h
  obtain ⟨m, rest, hm, rfl, hlow, hhigh⟩ := exists_tail
    (secondLow_le_iff.1 (Nat.le_refl _)).1 (le_secondHigh_iff.1 (Nat.le_refl _)).1 h
  rw [scan_more hlow hhigh] at h
  obtain ⟨n, rest, hn, rfl, -, -⟩ := exists_tail (by decide) (by decide) h
  rw [scan_last] at h
  obtain ⟨cs', rfl, hrest⟩ := cons_eq_map_some h
  obtain ⟨v, hv⟩ : ∃ v, v = ((b.toNat - 0xE0) * 64 + m % 64) * 64 + n % 64 := ⟨_, rfl⟩
  rw [secondLow_le_iff] at hlow
  rw [le_secondHigh_iff] at hhigh
  have hc : (Char.ofNat v).toNat = v := toNat_char (by omega)
  have hlead : UInt8.ofNat (v / 4096 % 16 + 0xE0) = b := octet_eq (by omega)
  have hsecond : tail (v / 64) = tail m := tail_congr (by omega)
  have hlast : tail v = tail n := tail_congr (by omega)
  refine ⟨Char.ofNat v, cs', rest, by rw [hv], ?_, hrest⟩
  rw [octets_three (by omega) (by omega), hc, hlead, hsecond, hlast]
  rfl

lemma begins_four (hb : 0xF0 ≤ b.toNat) (hb' : b.toNat ≤ 0xF4)
    (h : scan none (b :: bs) = cs.map some) : Begins (b :: bs) cs := by
  rw [scan_starts (ofOctet_four hb hb')] at h
  obtain ⟨l, rest, hl, rfl, hlow, hhigh⟩ := exists_tail
    (secondLow_le_iff.1 (Nat.le_refl _)).1 (le_secondHigh_iff.1 (Nat.le_refl _)).1 h
  rw [scan_more hlow hhigh] at h
  obtain ⟨m, rest, hm, rfl, hlow', hhigh'⟩ := exists_tail (by decide) (by decide) h
  rw [scan_more hlow' hhigh'] at h
  obtain ⟨n, rest, hn, rfl, -, -⟩ := exists_tail (by decide) (by decide) h
  rw [scan_last] at h
  obtain ⟨cs', rfl, hrest⟩ := cons_eq_map_some h
  obtain ⟨v, hv⟩ : ∃ v, v =
      (((b.toNat - 0xF0) * 64 + l % 64) * 64 + m % 64) * 64 + n % 64 := ⟨_, rfl⟩
  rw [secondLow_le_iff] at hlow
  rw [le_secondHigh_iff] at hhigh
  have hc : (Char.ofNat v).toNat = v := toNat_char (by omega)
  have hlead : UInt8.ofNat (v / 262144 % 8 + 0xF0) = b := octet_eq (by omega)
  have hsecond : tail (v / 4096) = tail l := tail_congr (by omega)
  have hthird : tail (v / 64) = tail m := tail_congr (by omega)
  have hlast : tail v = tail n := tail_congr (by omega)
  refine ⟨Char.ofNat v, cs', rest, by rw [hv], ?_, hrest⟩
  rw [octets_four (by omega), hc, hlead, hsecond, hthird, hlast]
  rfl

lemma begins_of_scan (h : scan none (b :: bs) = cs.map some) : Begins (b :: bs) cs := by
  by_cases hinvalid : 0x80 ≤ b.toNat ∧ b.toNat < 0xC2 ∨ 0xF4 < b.toNat
  · rw [scan, ofOctet_invalid hinvalid] at h
    cases cs <;> cases h
  · rcases Nat.lt_or_ge b.toNat 0x80 with h1 | h1
    · exact begins_one h1 h
    · rcases Nat.lt_or_ge b.toNat 0xE0 with h2 | h2
      · exact begins_two (by omega) h2 h
      · rcases Nat.lt_or_ge b.toNat 0xF0 with h3 | h3
        · exact begins_three h2 h3 h
        · exact begins_four h3 (by omega) h

end Begun

lemma encode_of_scan {bs : List UInt8} {cs : List Char} (h : scan none bs = cs.map some) :
    encode cs = bs := by
  induction hn : bs.length using Nat.strongRecOn generalizing bs cs with
  | ind n ih =>
    cases bs with
    | nil => cases cs with
      | nil => rfl
      | cons c cs => cases h
    | cons b bs =>
      obtain ⟨c, cs', rest, rfl, hbs, hrest⟩ := begins_of_scan h
      have hshort : rest.length < n := by
        have hlength := congrArg List.length hbs
        rw [List.length_append] at hlength
        have hpos := List.length_pos_iff.2 (@String.utf8EncodeChar_ne_nil c)
        omega
      rw [hbs, ← ih _ hshort hrest rfl]
      rfl

lemma mapM_id_eq_some {as : List (Option Char)} {cs : List Char} :
    as.mapM id = some cs ↔ as = cs.map some := by
  induction as generalizing cs with
  | nil => cases cs <;> simp
  | cons a as ih =>
    cases a with
    | none => cases cs <;> simp
    | some c =>
      have hstep : (some c :: as).mapM id = (as.mapM id).map (c :: ·) := by
        cases h : as.mapM id <;> simp [h]
      rw [hstep, Option.map_eq_some_iff]
      constructor
      · rintro ⟨cs, hread, rfl⟩
        rw [ih.1 hread, List.map_cons]
      · intro h
        obtain ⟨cs, rfl, hrest⟩ := cons_eq_map_some h
        exact ⟨cs, ih.2 hrest, rfl⟩

/-- Octets are read as a text exactly when the text is written with them. -/
theorem decode?_eq_some_iff {bs : List UInt8} {cs : List Char} :
    decode? bs = some cs ↔ encode cs = bs := by
  rw [decode?, mapM_id_eq_some]
  constructor
  · exact encode_of_scan
  · rintro rfl
    exact scan_encode cs

theorem decode?_eq_none_iff {bs : List UInt8} : decode? bs = none ↔ ∀ cs, encode cs ≠ bs := by
  rw [Option.eq_none_iff_forall_ne_some]
  exact forall_congr' fun cs => not_congr decode?_eq_some_iff

end Unbundled.Utf8
