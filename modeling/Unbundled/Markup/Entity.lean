import Unbundled.Text.Utf8

/-!
Character references: `&amp;` and its like, `&#` with decimal digits, `&#x` with hexadecimal
ones. The semicolon stands at most ten octets behind the ampersand. What is no reference stays as
it is, and what a reference stands for is not read again.
-/
namespace Unbundled.Markup

def namedReferences : List (List Char × Char) :=
  [(['a', 'm', 'p'], '&'), (['l', 't'], '<'), (['g', 't'], '>'), (['q', 'u', 'o', 't'], '"'),
   (['a', 'p', 'o', 's'], '\''), (['n', 'b', 's', 'p'], '\u00a0')]

/-- The value of a digit in the given radix, at most sixteen. -/
def digit? (radix : Nat) (c : Char) : Option Nat :=
  let n := c.toNat
  let value? :=
    if 0x30 ≤ n && n ≤ 0x39 then some (n - 0x30)
    else if 0x41 ≤ n && n ≤ 0x46 then some (n - 0x37)
    else if 0x61 ≤ n && n ≤ 0x66 then some (n - 0x57)
    else none
  value?.filter (· < radix)

def number? (radix : Nat) : List Char → Option Nat
  | [] => none
  | cs => cs.foldlM (fun n c => (digit? radix c).map (radix * n + ·)) 0

/-- A number may have a plus sign. -/
def signedNumber? (radix : Nat) : List Char → Option Nat
  | '+' :: cs => number? radix cs
  | cs => number? radix cs

def scalar? (n : Nat) : Option Char :=
  if n.isValidChar then some (Char.ofNat n) else none

/-- The character that the text between `&` and `;` stands for. -/
def referenced? (entity : List Char) : Option Char :=
  match namedReferences.lookup entity with
  | some c => some c
  | none =>
    match entity with
    | '#' :: 'x' :: hex | '#' :: 'X' :: hex => (signedNumber? 16 hex).bind scalar?
    | '#' :: decimal => (signedNumber? 10 decimal).bind scalar?
    | _ => none

/-- The reference whose `&` stands before `cs`: its character and its length without the `&`. -/
def reference? (cs : List Char) : Option (Char × Nat) :=
  let entity := cs.takeWhile (· ≠ ';')
  if entity.length < cs.length ∧ Utf8.size entity ≤ 9 then
    (referenced? entity).map (·, entity.length + 1)
  else none

/-- The text with its references decoded, behind `skip` characters that belong to the one
before. -/
def decodeFrom : Nat → List Char → List Char
  | _, [] => []
  | skip + 1, _ :: cs => decodeFrom skip cs
  | 0, c :: cs =>
    if c = '&' then
      match reference? cs with
      | some (d, length) => d :: decodeFrom length cs
      | none => c :: decodeFrom 0 cs
    else c :: decodeFrom 0 cs

def decodeEntities (cs : List Char) : List Char := decodeFrom 0 cs

end Unbundled.Markup
