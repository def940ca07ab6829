import Unbundled.Proofs.Octets.Checked
import Unbundled.Proofs.Template.StartTag
import Mathlib.Data.List.Infix

/-!
# Tags read by places

The end of a tag and its attributes are found in the octets, and names and values are cut from the
text by the places found. No step fails, and what is found is what the reader of characters finds.
-/

namespace Unbundled.Octets

open Markup (isNameEnd isQuote)
open Text (isMarkupBlank)

/-! ## The scanners -/

/-- The character that an octet is by itself. -/
def asChar (b : UInt8) : Char := Char.ofNat b.toNat

/-- How many octets stand in front of the `>` that ends a tag. -/
def tagEndIn (open? : Option Char) : List UInt8 → Option Nat
  | [] => none
  | b :: bs =>
    match open? with
    | some q => (tagEndIn (if asChar b = q then none else some q) bs).map (· + 1)
    | none =>
      if asChar b = '>' then some 0
      else (tagEndIn (if isQuote (asChar b) then some (asChar b) else none) bs).map (· + 1)

/-- The place of the `>` that ends the tag whose inside begins at `start`. -/
def tagEnd? (file : List UInt8) (start : Nat) : Checked (Option Nat) := do
  let rest ← octetsFrom file start
  return (tagEndIn none rest).map (start + ·)

/-- The next place of an octet without the property, or the end. -/
def skipWhile (p : Char → Bool) (file : List UInt8) (i : Nat) : Checked Nat :=
  loop (file.length - ·) (fun i => do
    if i < file.length then
      let b ← octetAt file i
      if p (asChar b) then return .again (i + 1) else return .leave i
    else return .leave i) i

/-- Whether the octet of `c` stands at the place. -/
def isAt (c : Char) (file : List UInt8) (i : Nat) : Checked Bool := do
  if i < file.length then
    let b ← octetAt file i
    return asChar b = c
  else return false

/-- The value of an attribute that begins at the place, and the place behind it. -/
def attributeValue (input : List Char) (i : Nat) : Checked (List Char × Nat) := do
  let file := Utf8.encode input
  match file[i]?.filter fun b => isQuote (asChar b) with
  | some q =>
    let rest ← octetsFrom file (i + 1)
    let stop := (find [q] rest).elim file.length (i + 1 + ·)
    let value ← textBetween input (i + 1) stop
    return (value, min (stop + 1) file.length)
  | none =>
    let stop ← skipWhile (!isMarkupBlank ·) file i
    let value ← textBetween input i stop
    return (value, stop)

/-- The attribute whose name ends at the place, and the place behind it. -/
def attributeBehind (input : List Char) (name : List Char) (i : Nat) :
    Checked (Markup.Attribute × Nat) := do
  let file := Utf8.encode input
  let i ← skipWhile isMarkupBlank file i
  if ← isAt '=' file i then
    let i ← skipWhile isMarkupBlank file (i + 1)
    let (value, i) ← attributeValue input i
    return (⟨String.ofList name, some (String.ofList value)⟩, i)
  else return (⟨String.ofList name, none⟩, i)

/-- Reads one attribute. Where no name begins, the rest is left. -/
def attributeRound (input : List Char) (s : Nat × List Markup.Attribute) :
    Checked (Turn (Nat × List Markup.Attribute) (List Markup.Attribute)) := do
  let file := Utf8.encode input
  if s.1 < file.length then
    let start ← skipWhile (fun c => isMarkupBlank c || c = '/') file s.1
    let stop ← skipWhile (!isNameEnd ·) file start
    if start = stop then return .leave s.2
    else
      let name ← textBetween input start stop
      let (a, i) ← attributeBehind input name stop
      return .again (i, s.2 ++ [a])
  else return .leave s.2

/-- The attributes in the inside of a tag. -/
def attributes (input : List Char) : Checked (List Markup.Attribute) :=
  loop (Utf8.size input - ·.1) (attributeRound input) (0, [])

/-- Whether a slash stands in front of the place. -/
def slashBefore (file : List UInt8) (i : Nat) : Checked Bool := do
  let b ← octetAt file (← minus i 1)
  return asChar b = '/'

/-- The attributes between the places, and whether a slash closes the tag there. -/
def tagInside (text : List Char) (start stop : Nat) : Checked (List Markup.Attribute × Bool) := do
  let isClosed ← slashBefore (Utf8.encode text) stop
  let last ← if isClosed then minus stop 1 else pure stop
  let inside ← textBetween text start last
  let as ← attributes inside
  return (as, isClosed)

/-- The tag whose inside begins at the place: its attributes, whether a slash closes it, and the
place behind it. -/
def tagAt (text : List Char) (start : Nat) :
    Checked (Option (List Markup.Attribute × Bool × Nat)) := do
  match ← tagEnd? (Utf8.encode text) start with
  | none => return none
  | some stop =>
    let (as, isClosed) ← tagInside text start stop
    return some (as, isClosed, stop + 1)

/-- The place behind the comment that begins at the place. -/
def commentEnd? (file : List UInt8) (start : Nat) : Checked (Option Nat) := do
  let rest ← octetsFrom file start
  return (find (Utf8.encode ['-', '-', '>']) rest).map (start + · + 3)

/-- How many octets the name has that begins behind the first octet. -/
def nameLength (p : Char → Bool) (rest : List Char) : Checked Nat := do
  let behind ← textFrom rest 1
  let whole ← minus (Utf8.size rest) 1
  return (findChar (!p ·) behind).getD whole

/-! ## Octets that are characters -/

lemma asChar_ofNat {c : Char} (hc : c.toNat ≤ 0x7F) : asChar (UInt8.ofNat c.toNat) = c := by
  rw [asChar, Utf8.toNat_octet (by omega), Char.ofNat_toNat]

/-- Of an octet of a character that is not ASCII, nothing is known but that it is not ASCII
either. -/
lemma toNat_asChar {c : Char} (hc : 0x7F < c.toNat) :
    ∀ b ∈ String.utf8EncodeChar c, 0x7F < (asChar b).toNat := by
  intro b hb
  have hlarge := Utf8.le_of_mem_octets hc hb
  have hbound := b.toNat_lt
  rw [asChar, Utf8.toNat_char (by omega)]
  omega

/-! ## Where a tag ends -/

lemma tagEndFrom?_eq_map (open? : Option Char) (before cs : List Char) :
    Markup.tagEndFrom? open? before cs =
      (Markup.tagEndFrom? open? [] cs).map fun parts => (before.reverse ++ parts.1, parts.2) := by
  induction cs generalizing open? before with
  | nil => rfl
  | cons c cs ih =>
    have hnext (next? : Option Char) : Markup.tagEndFrom? next? (c :: before) cs =
        (Markup.tagEndFrom? next? [c] cs).map fun parts =>
          (before.reverse ++ parts.1, parts.2) := by
      rw [ih next? (c :: before), ih next? [c], Option.map_map]
      simp [Function.comp_def]
    cases open? with
    | some q => exact hnext _
    | none =>
      rw [Markup.tagEndFrom?, Markup.tagEndFrom?]
      split_ifs
      · simp
      all_goals exact hnext _

lemma tagEndFrom?_cons {open? next? : Option Char} {c : Char}
    (h : ∀ before cs, Markup.tagEndFrom? open? before (c :: cs) =
      Markup.tagEndFrom? next? (c :: before) cs) (cs : List Char) :
    (Markup.tagEndFrom? open? [] (c :: cs)).map (Utf8.size ·.1) =
      ((Markup.tagEndFrom? next? [] cs).map (Utf8.size ·.1)).map (· + c.utf8Size) := by
  rw [h, tagEndFrom?_eq_map, Option.map_map, Option.map_map]
  simp [Function.comp_def, Nat.add_comm]

lemma toNat_of_isQuote {q : Char} (h : isQuote q) : q.toNat ≤ 0x7F := by
  simp only [isQuote, Bool.or_eq_true, decide_eq_true_eq] at h
  rcases h with rfl | rfl <;> decide

/-- Octets that are not ASCII neither end a tag nor open or close a quote. -/
lemma tagEndIn_skip {open? : Option Char} (hopen : ∀ q ∈ open?, isQuote q) {bs : List UInt8}
    (hbs : ∀ b ∈ bs, 0x7F < (asChar b).toNat) (rest : List UInt8) :
    tagEndIn open? (bs ++ rest) = (tagEndIn open? rest).map (· + bs.length) := by
  induction bs with
  | nil => simp
  | cons b bs ih =>
    rw [List.forall_mem_cons] at hbs
    have hne {c : Char} (hc : c.toNat ≤ 0x7F) : asChar b ≠ c := by
      rintro rfl
      omega
    have hquote : isQuote (asChar b) = false := by
      by_contra h
      have := toNat_of_isQuote (by simpa using h)
      omega
    have hstep : tagEndIn open? (b :: (bs ++ rest)) =
        (tagEndIn open? (bs ++ rest)).map (· + 1) := by
      cases open? with
      | some q => rw [tagEndIn, if_neg (hne (toNat_of_isQuote (hopen q rfl)))]
      | none =>
        rw [tagEndIn, if_neg (hne (by decide)), hquote]
        rfl
    rw [List.cons_append, hstep, ih hbs.2, Option.map_map]
    rfl

lemma tagEndIn_encode {open? : Option Char} (hopen : ∀ q ∈ open?, isQuote q) (cs : List Char) :
    tagEndIn open? (Utf8.encode cs) =
      (Markup.tagEndFrom? open? [] cs).map (Utf8.size ·.1) := by
  induction cs generalizing open? with
  | nil => cases open? <;> rfl
  | cons c cs ih =>
    rcases Nat.lt_or_ge 0x7F c.toNat with hlarge | hsmall
    · have hne {d : Char} (hd : d.toNat ≤ 0x7F) : c ≠ d := by
        rintro rfl
        omega
      rw [Utf8.encode_cons, tagEndIn_skip hopen (toNat_asChar hlarge), ih hopen,
        String.length_utf8EncodeChar]
      refine (tagEndFrom?_cons (fun before cs => ?_) cs).symm
      cases open? with
      | some q => rw [Markup.tagEndFrom?, if_neg (hne (toNat_of_isQuote (hopen q rfl)))]
      | none =>
        have hquote : isQuote c = false := by
          by_contra h
          have := toNat_of_isQuote (by simpa using h)
          omega
        rw [Markup.tagEndFrom?, if_neg (hne (by decide)), hquote]
        rfl
    · have hsize : c.utf8Size = 1 := by
        rw [← String.length_utf8EncodeChar, Utf8.octets_one hsmall, List.length_singleton]
      rw [Utf8.encode_cons, Utf8.octets_one hsmall, List.singleton_append]
      cases open? with
      | some q =>
        rw [tagEndIn, asChar_ofNat hsmall, ih (by split_ifs <;> simp_all), ← hsize]
        exact (tagEndFrom?_cons (fun before cs => rfl) cs).symm
      | none =>
        rw [tagEndIn, asChar_ofNat hsmall]
        by_cases hend : c = '>'
        · rw [if_pos hend, Markup.tagEndFrom?, if_pos hend]
          rfl
        · rw [if_neg hend, ih (by split_ifs <;> simp_all), ← hsize]
          have hstep (before cs : List Char) : Markup.tagEndFrom? none before (c :: cs) =
              Markup.tagEndFrom? (if isQuote c then some c else none) (c :: before) cs := by
            rw [Markup.tagEndFrom?, if_neg hend]
          exact (tagEndFrom?_cons hstep cs).symm

/-- A tag ends where the reader of characters ends it. -/
theorem tagEnd?_eq {text before behind : List Char} {i : Nat} (h : text = before ++ behind)
    (hi : i = Utf8.size before) : tagEnd? (Utf8.encode text) i =
      .ok ((Markup.tagEnd? behind).map fun parts => i + Utf8.size parts.1) := by
  rw [tagEnd?, octetsFrom_eq h hi, ok_bind, tagEndIn_encode (by simp), Option.map_map]
  rfl

/-! ## Stretches of octets -/

/-- The property is the same of all characters that are not ASCII. -/
def IsAsciiProperty (p : Char → Bool) : Prop :=
  ∀ c d : Char, 0x7F < c.toNat → 0x7F < d.toNat → p c = p d

/-- Such a property can be seen of each octet. -/
lemma IsAsciiProperty.octet {p : Char → Bool} (hp : IsAsciiProperty p) {c : Char} :
    ∀ b ∈ String.utf8EncodeChar c, p (asChar b) = p c := by
  intro b hb
  rcases Nat.lt_or_ge 0x7F c.toNat with hlarge | hsmall
  · exact hp _ _ (toNat_asChar hlarge b hb) hlarge
  · rw [Utf8.octets_one hsmall, List.mem_singleton] at hb
    rw [hb, asChar_ofNat hsmall]

lemma takeWhile_encode {p : Char → Bool} (hp : IsAsciiProperty p) (cs : List Char) :
    (Utf8.encode cs).takeWhile (fun b => p (asChar b)) = Utf8.encode (cs.takeWhile p) := by
  induction cs with
  | nil => rfl
  | cons c cs ih =>
    have hsame := hp.octet (c := c)
    rw [Utf8.encode_cons]
    by_cases hc : p c
    · rw [List.takeWhile_append_of_pos fun b hb => (hsame b hb).trans hc, ih,
        List.takeWhile_cons_of_pos hc, Utf8.encode_cons]
    · obtain ⟨b, bs, hbs⟩ := List.exists_cons_of_ne_nil (@String.utf8EncodeChar_ne_nil c)
      have hb : ¬ p (asChar b) := by
        rw [hsame b (by simp [hbs])]
        exact hc
      rw [hbs, List.cons_append, List.takeWhile_cons_of_neg (p := fun b => p (asChar b)) hb,
        List.takeWhile_cons_of_neg hc]
      rfl

lemma skipWhile_append (p : Char → Bool) (as bs : List UInt8) :
    skipWhile p (as ++ bs) as.length =
      .ok (as.length + (bs.takeWhile fun b => p (asChar b)).length) := by
  induction bs generalizing as with
  | nil =>
    refine loop_leave ?_
    rw [if_neg (by simp)]
    rfl
  | cons b bs ih =>
    have hget : octetAt (as ++ b :: bs) as.length = .ok b := by
      rw [octetAt, List.getElem?_append_right (Nat.le_refl _), Nat.sub_self]
      rfl
    have hless : as.length < (as ++ b :: bs).length := by simp
    by_cases hb : p (asChar b)
    · have hround : skipWhile p (as ++ b :: bs) as.length =
          skipWhile p (as ++ b :: bs) (as.length + 1) := by
        refine loop_again ?_ (by omega)
        rw [if_pos hless, hget, ok_bind, if_pos hb]
        rfl
      have hrest := ih (as ++ [b])
      rw [List.length_append, List.append_assoc, List.singleton_append,
        List.length_singleton] at hrest
      rw [hround, hrest, List.takeWhile_cons_of_pos (p := fun b => p (asChar b)) hb,
        List.length_cons]
      exact congrArg Except.ok (by omega)
    · refine loop_leave ?_
      rw [if_pos hless, hget, ok_bind, if_neg hb,
        List.takeWhile_cons_of_neg (p := fun b => p (asChar b)) hb]
      rfl

/-- A stretch of octets ends where the stretch of characters ends. -/
lemma skipWhile_eq {p : Char → Bool} (hp : IsAsciiProperty p) {text before behind : List Char}
    {i : Nat} (h : text = before ++ behind) (hi : i = Utf8.size before) :
    skipWhile p (Utf8.encode text) i = .ok (i + Utf8.size (behind.takeWhile p)) := by
  have hskip := skipWhile_append p (Utf8.encode before) (Utf8.encode behind)
  rwa [takeWhile_encode hp, Utf8.length_encode, Utf8.length_encode, ← Utf8.encode_append, ← h,
    ← hi] at hskip

/-- Being one of the ASCII characters is such a property. -/
lemma isAsciiProperty_eq {a : Char} (ha : a.toNat ≤ 0x7F) :
    IsAsciiProperty fun c => decide (c = a) := by
  have hne (c : Char) (hc : 0x7F < c.toNat) : c ≠ a := by
    rintro rfl
    omega
  intro c d hc hd
  change decide (c = a) = decide (d = a)
  rw [decide_eq_false (hne c hc), decide_eq_false (hne d hd)]

lemma IsAsciiProperty.or {p q : Char → Bool} (hp : IsAsciiProperty p) (hq : IsAsciiProperty q) :
    IsAsciiProperty fun c => p c || q c := fun c d hc hd =>
  congrArg₂ (· || ·) (hp c d hc hd) (hq c d hc hd)

lemma IsAsciiProperty.not {p : Char → Bool} (hp : IsAsciiProperty p) :
    IsAsciiProperty fun c => !p c := fun c d hc hd => congrArg (!·) (hp c d hc hd)

lemma isAsciiProperty_blank : IsAsciiProperty isMarkupBlank :=
  ((((isAsciiProperty_eq (by decide)).or (isAsciiProperty_eq (by decide))).or
    (isAsciiProperty_eq (by decide))).or (isAsciiProperty_eq (by decide))).or
    (isAsciiProperty_eq (by decide))

lemma isAsciiProperty_gap : IsAsciiProperty fun c => isMarkupBlank c || c = '/' :=
  isAsciiProperty_blank.or (isAsciiProperty_eq (by decide))

lemma isAsciiProperty_nameEnd : IsAsciiProperty isNameEnd :=
  isAsciiProperty_blank.or (isAsciiProperty_eq (by decide))

lemma isAsciiProperty_quote : IsAsciiProperty isQuote :=
  (isAsciiProperty_eq (by decide)).or (isAsciiProperty_eq (by decide))

/-! ## Attributes -/

section Attributes

variable {text before behind : List Char} {i : Nat}

/-- A stretch that is passed over, and the place behind it. -/
lemma exists_stretch {p : Char → Bool} (hp : IsAsciiProperty p) (h : text = before ++ behind)
    (hi : i = Utf8.size before) :
    ∃ stretch rest, behind.takeWhile p = stretch ∧ behind.dropWhile p = rest ∧
      behind = stretch ++ rest ∧ text = (before ++ stretch) ++ rest ∧
      i + Utf8.size stretch = Utf8.size (before ++ stretch) ∧
      skipWhile p (Utf8.encode text) i = .ok (i + Utf8.size stretch) := by
  have hparts : behind = behind.takeWhile p ++ behind.dropWhile p :=
    List.takeWhile_append_dropWhile.symm
  refine ⟨_, _, rfl, rfl, hparts, ?_, ?_, skipWhile_eq hp h hi⟩
  · rw [List.append_assoc, ← hparts, h]
  · rw [Utf8.size_append, hi]

/-- Whether a character is at a place can be seen of the first octet there. -/
lemma isAt_eq {c : Char} (hc : c.toNat ≤ 0x7F) (h : text = before ++ behind)
    (hi : i = Utf8.size before) :
    isAt c (Utf8.encode text) i = .ok (decide (behind.head? = some c)) := by
  cases behind with
  | nil =>
    rw [isAt, if_neg fun hless => (lt_length_iff h hi).1 hless rfl]
    rfl
  | cons d behind =>
    obtain ⟨b, hb, hget⟩ := exists_octet h hi
    have hsame : decide (asChar b = c) = decide (d = c) := (isAsciiProperty_eq hc).octet b hb
    rw [isAt, if_pos ((lt_length_iff h hi).2 (List.cons_ne_nil d behind)), octetAt, hget]
    change Except.ok (decide (asChar b = c)) = _
    rw [hsame, List.head?_cons]
    simp

/-- The first octet of a character ends what stands in front of it, or all is in front. -/
lemma find_octet {q : Char} (hq : q.toNat ≤ 0x7F) (cs : List Char) (n : Nat) :
    (find [UInt8.ofNat q.toNat] (Utf8.encode cs)).elim (n + Utf8.size cs) (n + ·) =
      n + Utf8.size (cs.takeWhile (· ≠ q)) := by
  have hfind : find [UInt8.ofNat q.toNat] (Utf8.encode cs) =
      (Text.splitOnce? [q] cs).map fun parts => Utf8.size parts.1 := by
    rw [← find_encode (by simp) (by simpa [IsAscii] using hq), Utf8.encode_cons,
      Utf8.octets_one hq]
    rfl
  rw [hfind]
  cases hcut : Text.splitOnce? [q] cs with
  | none =>
    have hall : cs.takeWhile (· ≠ q) = cs := by
      rw [Text.splitOnce?_eq_none_iff (by simp), List.singleton_infix_iff] at hcut
      rw [List.takeWhile_eq_self_iff]
      intro c hc
      simpa using ne_of_mem_of_not_mem hc hcut
    rw [hall]
    rfl
  | some parts =>
    obtain ⟨hcs, hfirst⟩ := (Text.splitOnce?_eq_some_iff (by simp)).1 hcut
    have hnot : q ∉ parts.1 := by
      simpa [List.singleton_infix_iff] using hfirst
    have htake : cs.takeWhile (· ≠ q) = parts.1 := by
      rw [hcs, List.append_assoc]
      refine Text.takeWhile_append_stop ?_ (by simp)
      rw [List.all_eq_true]
      intro c hc
      simpa using ne_of_mem_of_not_mem hc hnot
    rw [htake]
    rfl

/-- A quoted value ends in front of the next quote of its kind, or at the end. -/
lemma attributeValue_quoted {q : Char} {cs : List Char} (hq : isQuote q)
    (h : text = before ++ q :: cs) (hi : i = Utf8.size before) :
    ∃ taken, q :: cs = taken ++ (cs.dropWhile (· ≠ q)).drop 1 ∧
      attributeValue text i = .ok (cs.takeWhile (· ≠ q), i + Utf8.size taken) := by
  have hsmall := toNat_of_isQuote hq
  have hsize : q.utf8Size = 1 := utf8Size_of_ascii hsmall
  have hcs : cs = cs.takeWhile (· ≠ q) ++ cs.dropWhile (· ≠ q) :=
    List.takeWhile_append_dropWhile.symm
  have hbehind : text = (before ++ [q]) ++ cs := by rw [h, List.append_assoc]; rfl
  have hnext : i + 1 = Utf8.size (before ++ [q]) := by
    rw [Utf8.size_append, hi, Utf8.size_cons, hsize, Utf8.size_nil]
  have hlength : (Utf8.encode text).length = i + 1 + Utf8.size cs := by
    rw [Utf8.length_encode, hbehind, Utf8.size_append, hnext]
  have hvalue : textBetween text (i + 1) (i + 1 + Utf8.size (cs.takeWhile (· ≠ q))) =
      .ok (cs.takeWhile (· ≠ q)) :=
    textBetween_eq (by rw [List.append_assoc, ← hcs, hbehind]) hnext rfl
  have hquote : (some (UInt8.ofNat q.toNat)).filter (fun b => isQuote (asChar b)) =
      some (UInt8.ofNat q.toNat) := by
    rw [Option.filter_some, asChar_ofNat hsmall, if_pos hq]
  have hvalued : attributeValue text i = .ok (cs.takeWhile (· ≠ q),
      min (i + 1 + Utf8.size (cs.takeWhile (· ≠ q)) + 1) (i + 1 + Utf8.size cs)) := by
    rw [attributeValue]
    dsimp only
    rw [getElem?_octet h hi hsmall, hquote]
    dsimp only
    rw [octetsFrom_eq hbehind hnext, ok_bind, hlength, find_octet hsmall, hvalue, ok_bind]
    rfl
  rw [hvalued]
  -- the quote that closes the value is taken with it
  cases hrest : cs.dropWhile (· ≠ q) with
  | nil =>
    rw [hrest, List.append_nil] at hcs
    refine ⟨q :: cs, by simp, ?_⟩
    rw [← hcs, Nat.min_eq_right (Nat.le_succ _), Utf8.size_cons, hsize, Nat.add_assoc]
  | cons c rest =>
    obtain rfl : q = c := (Text.dropWhile_ne_eq_cons_iff.1 hrest).1.symm
    rw [hrest] at hcs
    refine ⟨q :: (cs.takeWhile (· ≠ q) ++ [q]), by simpa using hcs, ?_⟩
    have hsizes := congrArg Utf8.size hcs
    simp only [Utf8.size_append, Utf8.size_cons, Utf8.size_nil, hsize] at hsizes ⊢
    rw [Nat.min_eq_left (by omega)]
    exact congrArg (fun n => Except.ok (_, n)) (by omega)

lemma attributeValue_eq (h : text = before ++ behind) (hi : i = Utf8.size before) :
    ∃ taken, behind = taken ++ (Markup.attributeValue behind).2 ∧
      attributeValue text i =
        .ok ((Markup.attributeValue behind).1, i + Utf8.size taken) := by
  obtain ⟨value, rest, hvalue, hrest, hbehind, htext, -, hskip⟩ :=
    exists_stretch isAsciiProperty_blank.not h hi
  have hopen (hbare : (Utf8.encode text)[i]?.filter (fun b => isQuote (asChar b)) = none) :
      attributeValue text i = .ok (value, i + Utf8.size value) := by
    rw [attributeValue]
    dsimp only
    rw [hbare]
    dsimp only
    rw [hskip, ok_bind, textBetween_eq htext hi rfl]
    rfl
  cases behind with
  | nil =>
    have hend : (Utf8.encode text)[i]? = none := by
      rw [List.getElem?_eq_none_iff, Utf8.length_encode, h, List.append_nil, hi]
    rw [Markup.attributeValue]
    rw [List.takeWhile_nil] at hvalue
    exact ⟨[], rfl, hvalue ▸ hopen (by rw [hend]; rfl)⟩
  | cons q cs =>
    by_cases hq : isQuote q
    · rw [Markup.attributeValue, if_pos hq]
      exact attributeValue_quoted hq h hi
    · obtain ⟨b, hb, hget⟩ := exists_octet h hi
      rw [Markup.attributeValue, if_neg hq]
      refine ⟨value, hbehind.trans (by rw [hrest]), ?_⟩
      rw [hvalue]
      refine hopen ?_
      rw [hget, Option.filter_some, isAsciiProperty_quote.octet b hb, if_neg hq]

/-- An attribute without a value has something other than `=` behind its name. -/
lemma attributes_bare {cs name rest : List Char} (hname : name ≠ [])
    (h : Markup.attributeName cs = (name, rest)) (hrest : rest.head? ≠ some '=') :
    Markup.attributes cs = ⟨String.ofList name, none⟩ :: Markup.attributes rest := by
  have htext : (String.ofList name).toList = name := String.toList_ofList
  have hne : (String.ofList name).toList ≠ [] := by rwa [htext]
  cases rest with
  | nil =>
    rw [Template.attributes_last hne (by rw [h, htext]), Template.attributes_nil rfl]
  | cons c rest =>
    exact Template.attributes_bare hne (by rw [h, htext]) (by simpa using hrest)

lemma attributes_valued {cs name rest : List Char} (hname : name ≠ [])
    (h : Markup.attributeName cs = (name, '=' :: rest)) :
    Markup.attributes cs =
      ⟨String.ofList name,
        some (String.ofList (Markup.attributeValue (rest.dropWhile isMarkupBlank)).1)⟩ ::
        Markup.attributes (Markup.attributeValue (rest.dropWhile isMarkupBlank)).2 := by
  have htext : (String.ofList name).toList = name := String.toList_ofList
  exact Template.attributes_valued (by rwa [htext]) (by rw [h, htext])

lemma attributeBehind_eq {name : List Char} (hname : name ≠ []) (h : text = before ++ behind)
    (hi : i = Utf8.size before) :
    ∃ taken rest a, behind = taken ++ rest ∧
      attributeBehind text name i = .ok (a, i + Utf8.size taken) ∧
      ∀ cs, Markup.attributeName cs = (name, behind.dropWhile isMarkupBlank) →
        Markup.attributes cs = a :: Markup.attributes rest := by
  obtain ⟨blanks, tail, -, htail, hbehind, htext, hplace, hskip⟩ :=
    exists_stretch isAsciiProperty_blank h hi
  rw [htail, attributeBehind]
  dsimp only
  rw [hskip, ok_bind, isAt_eq (by decide) htext hplace, ok_bind]
  by_cases hequals : tail.head? = some '='
  · obtain ⟨rest, rfl⟩ := List.head?_eq_some_iff.1 hequals
    have hone : '='.utf8Size = 1 := by decide
    have hnext : text = (before ++ blanks ++ ['=']) ++ rest := by simp [htext]
    have hnextPlace : i + Utf8.size blanks + 1 = Utf8.size (before ++ blanks ++ ['=']) := by
      rw [Utf8.size_append, ← hplace, Utf8.size_cons, hone, Utf8.size_nil]
    obtain ⟨inner, start, -, hstart, hrest, htext, hplace, hskip⟩ :=
      exists_stretch isAsciiProperty_blank hnext hnextPlace
    obtain ⟨value, hvalue, hread⟩ := attributeValue_eq htext hplace
    refine ⟨blanks ++ '=' :: (inner ++ value), (Markup.attributeValue start).2,
      ⟨String.ofList name, some (String.ofList (Markup.attributeValue start).1)⟩, ?_, ?_, ?_⟩
    · rw [hbehind, hrest, List.append_assoc, List.cons_append, List.append_assoc, ← hvalue]
    · rw [if_pos (by simp), hskip, ok_bind, hread]
      simp only [Utf8.size_append, Utf8.size_cons, hone, Nat.add_assoc]
      rfl
    · intro cs hcs
      rw [attributes_valued hname hcs, hstart]
  · refine ⟨blanks, tail, ⟨String.ofList name, none⟩, hbehind, ?_,
      fun cs hcs => attributes_bare hname hcs hequals⟩
    rw [decide_eq_false hequals]
    rfl

/-- What a round takes off the rest, and what it finds there. -/
lemma attributeRound_eq (found : List Markup.Attribute) (h : text = before ++ behind)
    (hi : i = Utf8.size before) :
    attributeRound text (i, found) = .ok (.leave (found ++ Markup.attributes behind)) ∨
      ∃ taken rest a, taken ≠ [] ∧ behind = taken ++ rest ∧
        attributeRound text (i, found) = .ok (.again (i + Utf8.size taken, found ++ [a])) ∧
        Markup.attributes behind = a :: Markup.attributes rest := by
  have hless := lt_length_iff h hi
  by_cases hnil : behind = []
  · left
    rw [attributeRound]
    dsimp only
    rw [if_neg fun hmore => hless.1 hmore hnil, hnil, Template.attributes_nil rfl,
      List.append_nil]
    rfl
  obtain ⟨gap, start, -, hstart, hbehind, htext, hplace, hgap⟩ :=
    exists_stretch isAsciiProperty_gap h hi
  obtain ⟨name, after, hname, hafter, hparts, hafterText, hafterPlace, hskip⟩ :=
    exists_stretch isAsciiProperty_nameEnd.not htext hplace
  have hread : Markup.attributeName behind = (name, after.dropWhile isMarkupBlank) := by
    rw [Markup.attributeName, hstart, hname, hafter]
  rw [attributeRound]
  dsimp only
  rw [if_pos (hless.2 hnil), hgap, ok_bind, hskip, ok_bind]
  by_cases hempty : name = []
  · left
    rw [if_pos (by simp [hempty]), Template.attributes_nil (by rw [hread, hempty]),
      List.append_nil]
    rfl
  · right
    have hpos := size_pos hempty
    obtain ⟨taken, rest, a, hrest, hfound, hall⟩ :=
      attributeBehind_eq hempty hafterText hafterPlace
    refine ⟨gap ++ name ++ taken, rest, a, by simp [hempty], ?_, ?_, hall behind hread⟩
    · rw [hbehind, hparts, hrest, List.append_assoc, List.append_assoc]
    · rw [if_neg (by omega), textBetween_eq hafterText hplace rfl, ok_bind, hfound]
      simp only [Utf8.size_append, Nat.add_assoc]
      rfl

/-- Attributes are read without a failure, and as the reader of characters reads them. -/
theorem attributes_eq (input : List Char) : attributes input = .ok (Markup.attributes input) := by
  rw [attributes]
  refine loop_eq (R := fun behind (s : Nat × List Markup.Attribute) => Stands input s.1 behind)
    (f := fun behind s => s.2 ++ Markup.attributes behind) ?_ (stands_start input)
  rintro behind ⟨i, found⟩ ⟨before, h, hi⟩
  rcases attributeRound_eq found h hi with hleave | ⟨taken, rest, a, hne, rfl, hagain, hall⟩
  · exact .inl hleave
  · have hstands : Stands input i (taken ++ rest) := ⟨before, h, hi⟩
    refine .inr ⟨rest, _, hagain, hstands.less hne, hstands.behind, ?_⟩
    rw [hall, List.append_assoc]
    rfl

end Attributes

/-! ## The slash that closes a tag -/

lemma slashBefore_eq {text before behind : List Char} {i : Nat} (h : text = before ++ behind)
    (hi : i = Utf8.size before) (hne : before ≠ []) :
    slashBefore (Utf8.encode text) i = .ok (decide (before.getLast? = some '/')) := by
  obtain ⟨before, c, rfl⟩ := List.eq_nil_or_concat before |>.resolve_left hne
  obtain ⟨bs, b, hbs⟩ := (List.eq_nil_or_concat (String.utf8EncodeChar c)).resolve_left
    String.utf8EncodeChar_ne_nil
  have hsize : c.utf8Size = bs.length + 1 := by
    rw [← String.length_utf8EncodeChar, hbs, List.concat_eq_append, List.length_append,
      List.length_singleton]
  have hplace : i - 1 = (Utf8.encode before ++ bs).length := by
    rw [hi, List.concat_eq_append, Utf8.size_append, Utf8.size_cons, Utf8.size_nil, hsize,
      List.length_append, Utf8.length_encode]
    rfl
  have hget : octetAt (Utf8.encode text) (i - 1) = .ok b := by
    have hfile : Utf8.encode text = (Utf8.encode before ++ bs) ++ b :: Utf8.encode behind := by
      simp [h, hbs]
    rw [octetAt, hfile, hplace, List.getElem?_append_right (Nat.le_refl _), Nat.sub_self]
    rfl
  have hsame : decide (asChar b = '/') = decide (c = '/') :=
    (isAsciiProperty_eq (by decide)).octet b (by simp [hbs])
  have hpos : 1 ≤ i := by
    rw [hi, List.concat_eq_append, Utf8.size_append, Utf8.size_cons]
    omega
  rw [slashBefore, minus_eq hpos, ok_bind, hget, ok_bind, hsame, List.concat_eq_append,
    List.getLast?_concat]
  simp only [Option.some.injEq]
  rfl

lemma getLast?_ne_slash {c : Char} {before name : List Char} (h : '/' ∉ c :: name) :
    (before ++ c :: name).getLast? ≠ some '/' := by
  intro hlast
  rw [List.getLast?_append_of_ne_nil before (List.cons_ne_nil c name)] at hlast
  exact h (List.mem_of_getLast? hlast)

/-- Behind a name, a slash in front of the `>` ends the inside of the tag. -/
lemma slashBefore_inside {text before inside behind : List Char} {stop : Nat}
    (h : text = before ++ inside ++ behind) (hstop : stop = Utf8.size (before ++ inside))
    (hne : before ≠ []) (hlast : before.getLast? ≠ some '/') :
    slashBefore (Utf8.encode text) stop = .ok (decide (inside.getLast? = some '/')) := by
  have hslash : (before ++ inside).getLast? = some '/' ↔ inside.getLast? = some '/' := by
    cases hinside : inside.getLast? with
    | none => simpa [List.getLast?_append, hinside] using hlast
    | some c => simp [List.getLast?_append, hinside]
  rw [slashBefore_eq h hstop (by simp [hne]), decide_eq_decide.2 hslash]

/-- The attributes of a tag are those in its inside, without the slash that closes it. -/
theorem tagInside_eq {text before inside behind : List Char} {start stop : Nat}
    (h : text = before ++ inside ++ behind) (hstart : start = Utf8.size before)
    (hstop : stop = start + Utf8.size inside) (hne : before ≠ [])
    (hlast : before.getLast? ≠ some '/') :
    tagInside text start stop =
      .ok (Markup.attributes (Markup.withoutSlash inside).1, (Markup.withoutSlash inside).2) := by
  have hplace : stop = Utf8.size (before ++ inside) := by rw [Utf8.size_append, hstop, hstart]
  rw [tagInside, slashBefore_inside h hplace hne hlast, ok_bind, Markup.withoutSlash]
  by_cases hclosed : inside.getLast? = some '/'
  · obtain ⟨shorter, rfl⟩ := List.getLast?_eq_some_iff.1 hclosed
    have hone : '/'.utf8Size = 1 := by decide
    rw [Utf8.size_append, Utf8.size_cons, hone, Utf8.size_nil] at hstop
    have hparts : text = before ++ shorter ++ '/' :: behind := by rw [h]; simp
    have hcut : textBetween text start (stop - 1) = .ok shorter :=
      textBetween_eq hparts hstart (by omega)
    rw [if_pos hclosed, decide_eq_true hclosed, if_pos rfl, minus_eq (by omega), ok_bind]
    dsimp only
    rw [hcut, ok_bind, List.dropLast_concat, attributes_eq]
    rfl
  · have hstay : (pure stop : Checked Nat) = .ok stop := rfl
    rw [if_neg hclosed, decide_eq_false hclosed, if_neg (by decide),
      hstay, ok_bind]
    dsimp only
    rw [textBetween_eq h hstart hstop, ok_bind, attributes_eq]
    rfl

/-- A tag is read from the place behind its name, in which there is no slash. -/
theorem tagAt_eq {p : Char → Bool} (hp : p '/' = false) {text before cs : List Char} {i : Nat}
    (h : text = before ++ '<' :: cs) (hi : i = Utf8.size before) :
    tagAt text (i + 1 + Utf8.size (cs.takeWhile p)) =
      .ok ((Markup.tagEnd? (cs.dropWhile p)).map fun parts =>
        (Markup.attributes (Markup.withoutSlash parts.1).1, (Markup.withoutSlash parts.1).2,
          i + 1 + Utf8.size (cs.takeWhile p) + Utf8.size parts.1 + 1)) := by
  have hone : '<'.utf8Size = 1 := by decide
  have htext : text = (before ++ '<' :: cs.takeWhile p) ++ cs.dropWhile p := by
    rw [List.append_assoc, List.cons_append, List.takeWhile_append_dropWhile, h]
  have hplace : i + 1 + Utf8.size (cs.takeWhile p) =
      Utf8.size (before ++ '<' :: cs.takeWhile p) := by
    rw [Utf8.size_append, Utf8.size_cons, hone, hi, Nat.add_assoc]
  have hslash : '/' ∉ '<' :: cs.takeWhile p := by
    intro hmem
    have hname : '/' ∈ cs.takeWhile p := by simpa using hmem
    exact absurd (List.mem_takeWhile_imp hname) (by simp [hp])
  rw [tagAt, tagEnd?_eq htext hplace, ok_bind]
  cases hend : Markup.tagEnd? (cs.dropWhile p) with
  | none => rfl
  | some parts =>
    have hinside : text =
        (before ++ '<' :: cs.takeWhile p) ++ parts.1 ++ '>' :: parts.2 := by
      rw [htext, Markup.tagEnd?_eq_some hend, ← List.append_assoc]
    have htag := tagInside_eq hinside hplace rfl (by simp) (getLast?_ne_slash hslash)
    rw [Option.map_some]
    dsimp only
    rw [htag]
    rfl

/-! ## Comments and names behind a `<` -/

lemma commentEnd?_eq {text before cs : List Char} {i : Nat} (h : text = before ++ '<' :: cs)
    (hi : i = Utf8.size before) : commentEnd? (Utf8.encode text) i =
      .ok ((Text.splitOnce? ['-', '-', '>'] cs).map fun parts =>
        i + Utf8.size ('<' :: (parts.1 ++ ['-', '-', '>']))) := by
  have hcut : Text.splitOnce? ['-', '-', '>'] ('<' :: cs) =
      (Text.splitOnce? ['-', '-', '>'] cs).map fun parts => ('<' :: parts.1, parts.2) :=
    Text.splitOnce?_cons _ _ _
  have hdashes : Utf8.size ['-', '-', '>'] = 3 := by decide
  rw [commentEnd?, octetsFrom_eq h hi, ok_bind, find_encode (by simp) (by decide), hcut]
  cases Text.splitOnce? ['-', '-', '>'] cs with
  | none => rfl
  | some parts =>
    simp only [Option.map_some, Utf8.size_cons, Utf8.size_append, hdashes, Nat.add_assoc]
    rfl

section Names

variable (p : Char → Bool) (cs : List Char)

lemma nameLength_eq : nameLength p ('<' :: cs) = .ok (Utf8.size (cs.takeWhile p)) := by
  have hparts : '<' :: cs = ['<'] ++ cs := rfl
  have hone : '<'.utf8Size = 1 := by decide
  have hbehind : textFrom ('<' :: cs) 1 = .ok cs := textFrom_eq hparts rfl
  have hwhole : Utf8.size ('<' :: cs) - 1 = Utf8.size cs := by
    rw [Utf8.size_cons, hone, Nat.add_sub_cancel_left]
  rw [nameLength, hbehind, ok_bind, minus_eq (size_pos (List.cons_ne_nil _ _)),
    ok_bind, hwhole, findChar_getD]
  rfl

lemma textBetween_name : textBetween ('<' :: cs) 1 (Utf8.size (cs.takeWhile p) + 1) =
    .ok (cs.takeWhile p) := by
  have hparts : '<' :: cs = ['<'] ++ cs.takeWhile p ++ cs.dropWhile p := by
    rw [List.append_assoc, List.takeWhile_append_dropWhile]
    rfl
  exact textBetween_eq hparts rfl (Nat.add_comm _ _)

end Names

end Unbundled.Octets
