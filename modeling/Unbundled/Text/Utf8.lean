/-!
UTF-8 octets. `scan` reads a sequence of octets once, from left to right, and marks each
malformed stretch; the strict and the forgiving readers only differ in what they do with a mark.
-/
namespace Unbundled.Utf8

/-- The number of octets that the characters take. -/
def size (cs : List Char) : Nat :=
  cs.foldr (fun c n => c.utf8Size + n) 0

@[simp] theorem size_nil : size [] = 0 := rfl

@[simp] theorem size_cons (c : Char) (cs : List Char) : size (c :: cs) = c.utf8Size + size cs := rfl

theorem size_append (as bs : List Char) : size (as ++ bs) = size as + size bs := by
  induction as with
  | nil => simp
  | cons c cs ih => simp [ih, Nat.add_assoc]

/-- The characters before and after `n` octets, when a character ends there. -/
def splitAt? : Nat → List Char → Option (List Char × List Char)
  | 0, cs => some ([], cs)
  | _ + 1, [] => none
  | n + 1, c :: cs =>
    if c.utf8Size ≤ n + 1 then
      (splitAt? (n + 1 - c.utf8Size) cs).map fun (before, after) => (c :: before, after)
    else none

def encode (cs : List Char) : List UInt8 :=
  cs.flatMap String.utf8EncodeChar

/-- A character that has begun: octets still owed, the bounds of the next one, bits so far. -/
structure Pending where
  owed : Nat
  low : UInt8
  high : UInt8
  bits : Nat

/-- What a first octet says: a whole character, the start of one, or nothing. -/
inductive Lead where
  | whole (c : Char)
  | starts (p : Pending)
  | invalid

def Lead.ofOctet (b : UInt8) : Lead :=
  let n := b.toNat
  if n < 0x80 then .whole (Char.ofNat n)
  else if n < 0xC2 then .invalid
  else if n < 0xE0 then .starts ⟨1, 0x80, 0xBF, n - 0xC0⟩
  else if n = 0xE0 then .starts ⟨2, 0xA0, 0xBF, 0⟩
  else if n = 0xED then .starts ⟨2, 0x80, 0x9F, 0xD⟩
  else if n < 0xF0 then .starts ⟨2, 0x80, 0xBF, n - 0xE0⟩
  else if n = 0xF0 then .starts ⟨3, 0x90, 0xBF, 0⟩
  else if n < 0xF4 then .starts ⟨3, 0x80, 0xBF, n - 0xF0⟩
  else if n = 0xF4 then .starts ⟨3, 0x80, 0x8F, 4⟩
  else .invalid

/-- The characters of `bs`, with `none` for each longest stretch that begins a character and
does not complete it, and for each octet that can begin none. -/
def scan : Option Pending → List UInt8 → List (Option Char)
  | none, [] => []
  | some _, [] => [none]
  | none, b :: bs =>
    match Lead.ofOctet b with
    | .whole c => some c :: scan none bs
    | .starts p => scan (some p) bs
    | .invalid => none :: scan none bs
  | some p, b :: bs =>
    if p.low ≤ b ∧ b ≤ p.high then
      let bits := p.bits * 64 + (b.toNat - 0x80)
      if p.owed ≤ 1 then some (Char.ofNat bits) :: scan none bs
      else scan (some ⟨p.owed - 1, 0x80, 0xBF, bits⟩) bs
    else
      match Lead.ofOctet b with
      | .whole c => none :: some c :: scan none bs
      | .starts q => none :: scan (some q) bs
      | .invalid => none :: none :: scan none bs

/-- The text of well-formed octets. -/
def decode? (bs : List UInt8) : Option (List Char) :=
  (scan none bs).mapM id

/-- The text of any octets, with U+FFFD for each malformed stretch. -/
def decodeLossy (bs : List UInt8) : List Char :=
  (scan none bs).map (·.getD '\ufffd')

end Unbundled.Utf8
