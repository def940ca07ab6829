import Unbundled.Text.Split

/-!
Numeric addresses of hosts: four decimal numbers with points, or in brackets eight groups of
hexadecimal digits, of which a run of zeros may be left out.
-/
namespace Unbundled

inductive Address where
  | four (octets : List Nat)
  | six (groups : List Nat)
  deriving DecidableEq, Repr

namespace Address

/-- The number with the given digits. -/
def number? (base maxDigits : Nat) (cs : List Char) : Option Nat :=
  let digit? (c : Char) : Option Nat :=
    let n :=
      if c.isDigit then c.toNat - 48
      else if 'a' ≤ c ∧ c ≤ 'f' then c.toNat - 87
      else if 'A' ≤ c ∧ c ≤ 'F' then c.toNat - 55
      else base
    if n < base then some n else none
  if cs.isEmpty || maxDigits < cs.length then none
  else cs.foldlM (fun n c => (digit? c).map (base * n + ·)) 0

/-- A decimal number below 256, without zeros in front. -/
def octet? (cs : List Char) : Option Nat := do
  let n ← number? 10 3 cs
  if n < 256 && (cs.length = 1 || cs.head? ≠ some '0') then some n else none

def octets? (cs : List Char) : Option (List Nat) := do
  let octets ← (Text.splitAt (· = '.') cs).mapM octet?
  if octets.length = 4 then some octets else none

/-- The groups of a stretch without a gap. Its last two may be written as four octets. -/
def groups? (allowOctets : Bool) : List (List Char) → Option (List Nat)
  | [] => some []
  | [s] =>
    match if allowOctets then octets? s else none with
    | some [a, b, c, d] => some [a * 256 + b, c * 256 + d]
    | _ => (number? 16 4 s).map ([·])
  | s :: rest => do return (← number? 16 4 s) :: (← groups? allowOctets rest)

def stretch (cs : List Char) : List (List Char) :=
  if cs.isEmpty then [] else Text.splitAt (· = ':') cs

/-- Eight groups; two colons in a row stand for the groups that are missing. -/
def eight? (cs : List Char) : Option (List Nat) :=
  match Text.splitOnce? [':', ':'] cs with
  | none => do
    let groups ← groups? true (stretch cs)
    if groups.length = 8 then some groups else none
  | some (before, behind) => do
    let front ← groups? false (stretch before)
    let back ← groups? true (stretch behind)
    let missing := 8 - (front.length + back.length)
    if missing = 0 then none else some (front ++ List.replicate missing 0 ++ back)

/-- The number of an interface, which may follow the groups. -/
def isScope (cs : List Char) : Bool :=
  match cs with
  | [] => true
  | '%' :: ds => (number? 10 ds.length ds).any (· < Nat.pow 2 32)
  | _ => false

def ofText? (text : String) : Option Address :=
  match text.toList with
  | '[' :: cs =>
    match cs.getLast? with
    | some ']' =>
      let groups := cs.dropLast.takeWhile (· ≠ '%')
      if isScope (cs.dropLast.drop groups.length) then (eight? groups).map six else none
    | _ => none
  | cs => (octets? cs).map four

/-- Whether every machine has the address: its own, or the one that stands for all it has. -/
def isLocal : Address → Bool
  | four octets => octets.head? = some 127 || octets = [0, 0, 0, 0]
  | six groups =>
    groups = [0, 0, 0, 0, 0, 0, 0, 0] || groups = [0, 0, 0, 0, 0, 0, 0, 1]
      || (groups.take 6 = [0, 0, 0, 0, 0, 0xFFFF]
        && (groups.drop 6 = [0, 0] || (groups.drop 6).head?.any (· / 256 = 127)))

end Address

end Unbundled
