import Unbundled.Decimal.Text

/-!
The value of a numeric literal: digits of its radix, or a decimal with a point and an exponent.
-/
namespace Unbundled.Script.Numeral

def digit? (radix : Nat) (c : Char) : Option Nat :=
  let n := c.toNat
  let d :=
    if 48 ≤ n && n ≤ 57 then n - 48
    else if 97 ≤ n && n ≤ 122 then n - 87
    else if 65 ≤ n && n ≤ 90 then n - 55
    else 36
  if d < radix then some d else none

def isDigit (radix : Nat) (c : Char) : Bool := (digit? radix c).isSome

/-- The number that the digits of `cs` spell; other characters are passed over. -/
def ofDigits (radix : Nat) (cs : List Char) : Nat :=
  cs.foldl (fun n c => match digit? radix c with
    | some d => n * radix + d
    | none => n) 0

/-- The value as a ratio. Exponents beyond every binary64 number are cut off. -/
def ratio (raw : String) : Nat × Nat :=
  match raw.toList.filter (· ≠ '_') with
  | '0' :: 'x' :: cs | '0' :: 'X' :: cs => (ofDigits 16 cs, 1)
  | '0' :: 'o' :: cs | '0' :: 'O' :: cs => (ofDigits 8 cs, 1)
  | '0' :: 'b' :: cs | '0' :: 'B' :: cs => (ofDigits 2 cs, 1)
  | cs =>
    let mantissa := cs.takeWhile fun c => !(c = 'e' || c = 'E')
    let exponent := (cs.drop mantissa.length).drop 1
    let whole := mantissa.takeWhile (· ≠ '.')
    let places := (mantissa.drop whole.length).drop 1
    let value := ofDigits 10 (whole ++ places)
    let power := min (ofDigits 10 exponent) 5000
    if exponent.head? = some '-' then (value, Nat.pow 10 (places.length + power))
    else (value * Nat.pow 10 power, Nat.pow 10 places.length)

/-- The value in positional decimal notation, rounded to a binary64 number. -/
def valueText (raw : String) : String :=
  let (num, den) := ratio raw
  Decimal.ratioText num den

/-- The value with a point, rounded to a binary64 number: up to three zeros behind the point, else
a power of ten. -/
def pointText (raw : String) : String :=
  let (num, den) := ratio raw
  match Decimal.Binary64.nearest? num den with
  | some b => Decimal.pointText 3 b
  | none => "inf"

/-- The value of an integer literal that ends in `n`. -/
def bigValueText (raw : String) : String :=
  toString (ratio (String.ofList raw.toList.dropLast)).1

end Unbundled.Script.Numeral
