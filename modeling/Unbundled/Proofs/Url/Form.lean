import Unbundled.Proofs.Text.Percent
import Unbundled.Proofs.Text.Split
import Unbundled.Proofs.Text.Utf8
import Unbundled.Url
import Mathlib.Data.List.Forall2
import Mathlib.Tactic.SplitIfs

/-!
# Forms

There are many ways to write pairs of texts into a query: any character may be escaped, octet by
octet, and only a few have to be. Whichever way the pairs are written, they are read back in their
order.
-/

namespace Unbundled.Url

/-- `c` is the hexadecimal digit of `d`, in either case. -/
def IsHexDigit (c : Char) (d : Nat) : Prop := c = d.digitChar ∨ c = d.digitChar.toUpper

/-- `%` and two digits for each octet. -/
inductive Escapes : List UInt8 → List Char → Prop
  | nil : Escapes [] []
  | cons {b : UInt8} {bs : List UInt8} {h l : Char} {es : List Char}
      (hh : IsHexDigit h (b.toNat / 16)) (hl : IsHexDigit l (b.toNat % 16))
      (hs : Escapes bs es) : Escapes (b :: bs) ('%' :: h :: l :: es)

/-- The characters with a meaning in a form, and the one that ends the query. -/
def formMarks : List Char := ['%', '+', '&', '=', '#']

/-- A way to write a text into a form: each character as it is, unless it is a mark, or as escapes
of its octets; a space also as `+`. -/
inductive WritesText : List Char → List Char → Prop
  | nil : WritesText [] []
  | raw {c : Char} {cs ws : List Char} (hc : c ∉ formMarks) (hs : WritesText cs ws) :
      WritesText (c :: cs) (c :: ws)
  | space {cs ws : List Char} (hs : WritesText cs ws) : WritesText (' ' :: cs) ('+' :: ws)
  | escaped {c : Char} {cs es ws : List Char} (hc : Escapes (String.utf8EncodeChar c) es)
      (hs : WritesText cs ws) : WritesText (c :: cs) (es ++ ws)

/-- A way to write a pair: key and value with `=` between them. -/
def WritesPair (pair : String × String) (part : List Char) : Prop :=
  ∃ key value, part = key ++ '=' :: value ∧ WritesText pair.1.toList key ∧
    WritesText pair.2.toList value

/-- A way to write pairs into a query: one behind the other, with `&` between them. -/
def WritesForm (pairs : List (String × String)) (query : String) : Prop :=
  ∃ parts, query.toList = ['&'].intercalate parts ∧ List.Forall₂ WritesPair pairs parts

/-! ## The usual way to write a form -/

def escapeOctet (b : UInt8) : List Char :=
  ['%', (b.toNat / 16).digitChar.toUpper, (b.toNat % 16).digitChar.toUpper]

def formChar (c : Char) : List Char :=
  if c.isAlphanum ∨ c ∈ ['*', '-', '.', '_'] then [c]
  else if c = ' ' then ['+']
  else (String.utf8EncodeChar c).flatMap escapeOctet

/-- The form of pairs in which all is escaped but letters, digits, spaces and `*`, `-`, `.`,
`_`. -/
def formOf (pairs : List (String × String)) : String :=
  String.ofList <| ['&'].intercalate <| pairs.map fun (key, value) =>
    key.toList.flatMap formChar ++ '=' :: value.toList.flatMap formChar

lemma escapes_flatMap (bs : List UInt8) : Escapes bs (bs.flatMap escapeOctet) := by
  induction bs with
  | nil => exact .nil
  | cons b bs ih => exact .cons (.inr rfl) (.inr rfl) ih

lemma writesText_flatMap (cs : List Char) : WritesText cs (cs.flatMap formChar) := by
  induction cs with
  | nil => exact .nil
  | cons c cs ih =>
    rw [List.flatMap_cons, formChar]
    split_ifs with hplain hspace
    · have hmarks : formMarks.all fun m =>
          decide (¬ (m.isAlphanum ∨ m ∈ ['*', '-', '.', '_'])) := by decide
      refine .raw (fun hmem => ?_) ih
      exact of_decide_eq_true (List.all_eq_true.1 hmarks c hmem) hplain
    · exact hspace ▸ .space ih
    · exact .escaped (escapes_flatMap _) ih

lemma writesForm_formOf (pairs : List (String × String)) : WritesForm pairs (formOf pairs) := by
  refine ⟨_, String.toList_ofList, ?_⟩
  rw [List.forall₂_map_right_iff, List.forall₂_same]
  exact fun pair _ => ⟨_, _, rfl, writesText_flatMap _, writesText_flatMap _⟩

/-! ## Written texts are read back -/

/-- What an octet of a form stands for, before escapes are undone. -/
def spaceOf (b : UInt8) : UInt8 := if b = 0x2B then 0x20 else b

lemma IsHexDigit.ascii {c : Char} {d : Nat} (h : IsHexDigit c d) (hd : d < 16) :
    c.toNat ≤ 0x7F ∧ c ∉ formMarks ∧ spaceOf (UInt8.ofNat c.toNat) = UInt8.ofNat c.toNat ∧
      Percent.IsDigit (UInt8.ofNat c.toNat) d := by
  have hall : ∀ d < 16, [d.digitChar, d.digitChar.toUpper].all fun c => decide (c.toNat ≤ 0x7F ∧
      c ∉ formMarks ∧ spaceOf (UInt8.ofNat c.toNat) = UInt8.ofNat c.toNat) := by decide
  have hchar := List.all_eq_true.1 (hall d hd) c (by simpa [IsHexDigit] using h)
  obtain ⟨hsmall, hmarks, hspace⟩ := of_decide_eq_true hchar
  refine ⟨hsmall, hmarks, hspace, hd, ?_⟩
  rw [Utf8.toNat_octet (by omega)]
  exact h.imp (congrArg Char.toNat) (congrArg Char.toNat)

lemma Escapes.octets {bs : List UInt8} {es : List Char} (h : Escapes bs es) :
    Percent.Writes bs ((Utf8.encode es).map spaceOf) := by
  induction h with
  | nil => exact .nil
  | @cons b bs h l es hh hl hs ih =>
    have hb := b.toNat_lt
    obtain ⟨hsmall, -, hplain, hdigit⟩ := hh.ascii (by omega)
    obtain ⟨hsmall', -, hplain', hdigit'⟩ := hl.ascii (by omega)
    have hwritten : (Utf8.encode ('%' :: h :: l :: es)).map spaceOf =
        0x25 :: UInt8.ofNat h.toNat :: UInt8.ofNat l.toNat :: (Utf8.encode es).map spaceOf := by
      rw [Utf8.encode_cons, Utf8.encode_cons, Utf8.encode_cons, Utf8.octets_one hsmall,
        Utf8.octets_one hsmall']
      simp only [List.map_append, List.map_cons, List.map_nil, hplain, hplain']
      rfl
    rw [hwritten]
    exact .escape ⟨_, _, hdigit, hdigit', by omega⟩ ih

lemma WritesText.octets {cs ws : List Char} (h : WritesText cs ws) :
    Percent.Writes (Utf8.encode cs) ((Utf8.encode ws).map spaceOf) := by
  induction h with
  | nil => exact .nil
  | @raw c cs ws hc hs ih =>
    have hfree {b : UInt8} (hb : b.toNat < 0x80) (hmark : Char.ofNat b.toNat ∈ formMarks) :
        b ∉ String.utf8EncodeChar c := by
      intro hmem
      have hin : b ∈ Utf8.encode [c] := by simpa using hmem
      exact hc (List.mem_singleton.1 (Utf8.mem_encode_ascii hb hin) ▸ hmark)
    have hplus : (String.utf8EncodeChar c).map spaceOf = String.utf8EncodeChar c := by
      have hsame (b : UInt8) (hb : b ∈ String.utf8EncodeChar c) : spaceOf b = b :=
        if_neg fun heq => hfree (by decide) (by decide) (heq ▸ hb)
      rw [List.map_congr_left hsame, List.map_id']
    rw [Utf8.encode_cons, Utf8.encode_cons, List.map_append, hplus]
    exact (Percent.writes_self (hfree (by decide) (by decide))).append ih
  | space hs ih => exact .raw (by decide) ih
  | escaped hc hs ih =>
    rw [Utf8.encode_cons, Utf8.encode_append, List.map_append]
    exact hc.octets.append ih

lemma WritesText.formText_eq {cs ws : List Char} (h : WritesText cs ws) : formText ws = cs := by
  have hread : Percent.decode ((Utf8.encode ws).map spaceOf) = Utf8.encode cs :=
    (Percent.reads_iff.1 h.octets.reads).symm
  change Utf8.decodeLossy (Percent.decode ((Utf8.encode ws).map spaceOf)) = cs
  rw [hread, Utf8.decodeLossy, Utf8.scan_encode, List.map_map]
  exact List.map_id cs

/-! ## Written pairs are read back -/

lemma Escapes.not_mem {bs : List UInt8} {es : List Char} (h : Escapes bs es) {m : Char}
    (hm : m ∈ formMarks) (hpercent : m ≠ '%') : m ∉ es := by
  induction h with
  | nil => simp
  | @cons b bs h l es hh hl hs ih =>
    have hb := b.toNat_lt
    obtain ⟨-, hmark, -⟩ := hh.ascii (by omega)
    obtain ⟨-, hmark', -⟩ := hl.ascii (by omega)
    simp only [List.mem_cons, not_or]
    exact ⟨hpercent, fun heq => hmark (heq ▸ hm), fun heq => hmark' (heq ▸ hm), ih⟩

/-- No separator and no end of the query is in a written text. -/
lemma WritesText.not_mem {cs ws : List Char} (h : WritesText cs ws) {m : Char}
    (hm : m ∈ ['&', '=', '#']) : m ∉ ws := by
  have hmark : m ∈ formMarks ∧ m ≠ '%' ∧ m ≠ '+' := by
    simp only [List.mem_cons, List.not_mem_nil, or_false] at hm
    rcases hm with rfl | rfl | rfl <;> decide
  induction h with
  | nil => simp
  | raw hc hs ih => exact List.not_mem_cons_of_ne_of_not_mem (fun heq => hc (heq ▸ hmark.1)) ih
  | space hs ih => exact List.not_mem_cons_of_ne_of_not_mem hmark.2.2 ih
  | escaped hc hs ih =>
    exact fun hmem => (List.mem_append.1 hmem).elim (hc.not_mem hmark.1 hmark.2.1) ih

lemma WritesPair.formPair_eq {pair : String × String} {part : List Char}
    (h : WritesPair pair part) : formPair part = (pair.1.toList, pair.2.toList) := by
  obtain ⟨key, value, rfl, hkey, hvalue⟩ := h
  have hall : key.all (· ≠ '=') := by
    refine List.all_eq_true.2 fun c hc => decide_eq_true fun heq => ?_
    exact hkey.not_mem (m := '=') (by decide) (heq ▸ hc)
  have hstop : ∀ c ∈ ('=' :: value).head?, decide (c ≠ '=') = false := by simp
  rw [formPair, Text.takeWhile_append_stop hall hstop, Text.dropWhile_append_stop hall hstop,
    hkey.formText_eq, List.drop_one, List.tail_cons, hvalue.formText_eq]

lemma WritesPair.not_mem {pair : String × String} {part : List Char} (h : WritesPair pair part)
    {m : Char} (hm : m ∈ ['&', '#']) : m ∉ part := by
  have hmark : m ∈ ['&', '=', '#'] ∧ m ≠ '=' := by
    simp only [List.mem_cons, List.not_mem_nil, or_false] at hm
    rcases hm with rfl | rfl <;> decide
  obtain ⟨key, value, rfl, hkey, hvalue⟩ := h
  simp only [List.mem_append, List.mem_cons, not_or]
  exact ⟨hkey.not_mem hmark.1, hmark.2, hvalue.not_mem hmark.1⟩

lemma WritesPair.ne_nil {pair : String × String} {part : List Char} (h : WritesPair pair part) :
    part ≠ [] := by
  obtain ⟨key, value, rfl, -⟩ := h
  simp

/-! ## Written forms are read back -/

section Parts

variable {pairs : List (String × String)} {parts : List (List Char)}

lemma forall_mem_parts (h : List.Forall₂ WritesPair pairs parts) :
    ∀ part ∈ parts, part ≠ [] ∧ '&' ∉ part ∧ '#' ∉ part := by
  induction h with
  | nil => simp
  | cons hpair hs ih =>
    exact List.forall_mem_cons.2
      ⟨⟨hpair.ne_nil, hpair.not_mem (by decide), hpair.not_mem (by decide)⟩, ih⟩

lemma map_formPair (h : List.Forall₂ WritesPair pairs parts) :
    parts.map formPair = pairs.map fun pair => (pair.1.toList, pair.2.toList) := by
  induction h with
  | nil => rfl
  | cons hpair hs ih => rw [List.map_cons, List.map_cons, hpair.formPair_eq, ih]

/-- The parts of a form, empty ones left out, are found between the separators. -/
lemma splitAt_intercalate (h : ∀ part ∈ parts, part ≠ [] ∧ '&' ∉ part ∧ '#' ∉ part) :
    (Text.splitAt (· = '&') (['&'].intercalate parts)).filter (· ≠ []) = parts := by
  rw [Text.splitAt_eq_splitOnP]
  change ((['&'].intercalate parts).splitOn '&').filter (· ≠ []) = parts
  cases parts with
  | nil => rfl
  | cons part parts =>
    rw [List.splitOn_intercalate '&' (fun part hpart => (h part hpart).2.1) (by simp),
      List.filter_eq_self]
    exact fun part hpart => decide_eq_true (h part hpart).1

lemma not_mem_intercalate (h : ∀ part ∈ parts, part ≠ [] ∧ '&' ∉ part ∧ '#' ∉ part) :
    '#' ∉ ['&'].intercalate parts := by
  induction parts with
  | nil => simp
  | cons part parts ih =>
    rw [List.forall_mem_cons] at h
    cases parts with
    | nil => simpa using h.1.2.2
    | cons next parts =>
      rw [List.intercalate_cons_cons, List.mem_append, List.mem_append]
      rintro ((hmem | hmem) | hmem)
      · exact h.1.2.2 hmem
      · exact absurd (List.mem_singleton.1 hmem) (by decide)
      · exact ih h.2 hmem

end Parts

/-- The pairs that are written into a query are read from it, in their order. -/
theorem WritesForm.formPairs_eq {pairs : List (String × String)} {query : String}
    (h : WritesForm pairs query) :
    formPairs query.toList = pairs.map fun pair => (pair.1.toList, pair.2.toList) := by
  obtain ⟨parts, hquery, hparts⟩ := h
  rw [formPairs, hquery, splitAt_intercalate (forall_mem_parts hparts), map_formPair hparts]

/-- A written form does not reach into the fragment. -/
lemma WritesForm.not_mem {pairs : List (String × String)} {query : String}
    (h : WritesForm pairs query) : '#' ∉ query.toList := by
  obtain ⟨parts, hquery, hparts⟩ := h
  rw [hquery]
  exact not_mem_intercalate (forall_mem_parts hparts)

end Unbundled.Url
