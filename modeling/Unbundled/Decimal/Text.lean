import Unbundled.Decimal.Shortest

/-!
The text of a binary64 number with a point: positional notation where the point stands near the
digits, else a power of ten.
-/
namespace Unbundled.Decimal

/-- The digits without the zeros at their end, and how many digits stand before the point, which
is negative where zeros stand between the point and the digits. -/
def Digits.trimmed (d : Digits) : List Char × Int :=
  let digits := Nat.toDigits 10 d.value
  let zeros := digits.reverse.takeWhile (· = '0')
  (digits.take (digits.length - zeros.length), digits.length + (d.exponent - 400 : Int))

/-- Positional notation up to sixteen places before the point and up to `zeros` zeros behind it,
and with a place behind the point at least. -/
def pointText (zeros : Nat) (b : Binary64) : String :=
  if b.m = 0 then "0.0"
  else
    let (digits, point) := b.shortest.trimmed
    String.ofList <|
      if digits.length ≤ point ∧ point ≤ 16 then
        digits ++ List.replicate (point - digits.length).toNat '0' ++ ['.', '0']
      else if 0 < point ∧ point ≤ 16 then
        digits.take point.toNat ++ '.' :: digits.drop point.toNat
      else if -(zeros : Int) ≤ point ∧ point ≤ 0 then
        '0' :: '.' :: List.replicate (-point).toNat '0' ++ digits
      else
        let power := 'e' :: (toString (point - 1)).toList
        match digits with
        | [d] => d :: power
        | d :: ds => d :: '.' :: ds ++ power
        | [] => []

end Unbundled.Decimal
