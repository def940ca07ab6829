/-!
The shortest decimal that reads back as a binary64 number. All arithmetic is on natural numbers:
a decimal is rounded to `m * 2^q`, the reals that round to it form an interval, and the coarsest
decimal grid with a point in the interval gives the digits.
-/
namespace Unbundled.Decimal

/-- The nearest natural number to `num / den`; a tie goes to the even one. -/
def roundDiv (num den : Nat) : Nat :=
  let q := num / den
  let r := num % den
  if 2 * r < den then q
  else if den < 2 * r then q + 1
  else if q % 2 = 0 then q else q + 1

/-- The number `m * 2^(e - 1074)`. -/
structure Binary64 where
  m : Nat
  e : Nat
  deriving DecidableEq, Repr

/-- The binary64 number nearest to `num / den`, or `none` when that is out of range. -/
def Binary64.nearest? (num den : Nat) : Option Binary64 :=
  if num = 0 then some ⟨0, 0⟩
  else
    let scaled := num * Nat.pow 2 1074
    let shift := (scaled.log2 - den.log2) - 53
    let shift := if den * Nat.pow 2 (shift + 53) ≤ scaled then shift + 1 else shift
    let shift := if shift ≠ 0 ∧ scaled < den * Nat.pow 2 (shift + 52) then shift - 1 else shift
    let m := roundDiv scaled (den * Nat.pow 2 shift)
    let (m, e) := if m = Nat.pow 2 53 then (Nat.pow 2 52, shift + 1) else (m, shift)
    if 2045 < e then none else some ⟨m, e⟩

/-- Digits and the exponent of the last one, `exponent - 400` being meant. -/
structure Digits where
  value : Nat
  exponent : Nat
  deriving Repr

/-- Looks for a point of the grid of step `10^(p - 400)` in the interval, from coarse to fine. The
interval is `low / unit` to `high / unit` around `mid / unit`. -/
def searchGrid (low mid high unit : Nat) (closed : Bool) : Nat → Digits
  | 0 => ⟨0, 0⟩
  | p + 1 =>
    let num := fun n => n * Nat.pow 10 (400 - p)
    let step := unit * Nat.pow 10 (p - 400)
    let below := num mid / step
    let inside := fun d =>
      let x := d * step
      if closed then num low ≤ x && x ≤ num high else num low < x && x < num high
    match inside below && below ≠ 0, inside (below + 1) with
    | true, true =>
      if 2 * (num mid % step) ≤ step then ⟨below, p⟩ else ⟨below + 1, p⟩
    | true, false => ⟨below, p⟩
    | false, true => ⟨below + 1, p⟩
    | false, false => searchGrid low mid high unit closed p

/-- The fewest digits that read back as `b`, and of those the nearest. -/
def Binary64.shortest (b : Binary64) : Digits :=
  let unit := 4 * Nat.pow 2 1074
  let mid := 4 * b.m * Nat.pow 2 b.e
  let high := (4 * b.m + 2) * Nat.pow 2 b.e
  let low :=
    if b.m = Nat.pow 2 52 ∧ b.e ≠ 0 then (4 * b.m - 1) * Nat.pow 2 b.e
    else (4 * b.m - 2) * Nat.pow 2 b.e
  searchGrid low mid high unit (b.m % 2 = 0) 710

/-- Positional notation without an exponent. -/
def Digits.positional (d : Digits) : String :=
  let digits := Nat.toDigits 10 d.value
  if 400 ≤ d.exponent then String.ofList (digits ++ List.replicate (d.exponent - 400) '0')
  else
    let places := 400 - d.exponent
    let padded := List.replicate (places + 1 - digits.length) '0' ++ digits
    let whole := padded.length - places
    String.ofList (padded.take whole ++ '.' :: padded.drop whole)

/-- The text of `num / den` as a binary64 number. -/
def ratioText (num den : Nat) : String :=
  match Binary64.nearest? num den with
  | none => "inf"
  | some b => if b.m = 0 then "0" else b.shortest.positional

end Unbundled.Decimal
