import Unbundled.Decimal.Text

/-!
Numbers that are too large or too fine for an integer become binary64 numbers: the leading digits
are rounded, and so is what a power of ten makes of them.
-/
namespace Unbundled.Json

open Decimal (Binary64)

namespace Binary64

def num (b : Binary64) : Nat := b.m * Nat.pow 2 b.e

def mul? (a b : Binary64) : Option Binary64 := Binary64.nearest? (num a * num b) (Nat.pow 2 2148)

def div? (a b : Binary64) : Option Binary64 := Binary64.nearest? (num a) (num b)

/-- The number nearest to a power of ten, of which the greatest has 308 zeros. -/
def powerOfTen (n : Nat) : Binary64 := (Binary64.nearest? (Nat.pow 10 n) 1).getD ⟨0, 0⟩

end Binary64

/-- `f` divided by `10^n`, in steps of at most 308 places. -/
def scaleDown (f : Binary64) (n : Nat) : Binary64 :=
  if f.m = 0 then f
  else if n ≤ 308 then (Binary64.div? f (Binary64.powerOfTen n)).getD f
  else scaleDown ((Binary64.div? f (Binary64.powerOfTen 308)).getD ⟨0, 0⟩) (n - 308)
termination_by n

/-- The number `significand * 10^exponent`; `none` when it is out of range. -/
def scaled? (significand : Nat) (exponent : Int) : Option Binary64 :=
  let f := (Binary64.nearest? significand 1).getD ⟨0, 0⟩
  match exponent with
  | .ofNat n =>
    if n ≤ 308 then Binary64.mul? f (Binary64.powerOfTen n)
    else if f.m = 0 then some f
    else none
  | .negSucc n => some (scaleDown f (n + 1))

/-- Positional notation with up to four zeros behind the point; else a power of ten. -/
def floatText (negative : Bool) (b : Binary64) : String :=
  (if negative then "-" else "") ++ Decimal.pointText 4 b

end Unbundled.Json
