/-!
Percent-escapes over octets. An escape that is not two hexadecimal digits stays as it is.
-/
namespace Unbundled.Percent

def hexDigit? (b : UInt8) : Option UInt8 :=
  if 0x30 ≤ b ∧ b ≤ 0x39 then some (b - 0x30)
  else if 0x41 ≤ b ∧ b ≤ 0x46 then some (b - 0x37)
  else if 0x61 ≤ b ∧ b ≤ 0x66 then some (b - 0x57)
  else none

/-- The octet that a `%` followed by `h` and `l` stands for. -/
def escaped? (h l : UInt8) : Option UInt8 := do
  let x ← hexDigit? h
  let y ← hexDigit? l
  return x * 16 + y

def decode : List UInt8 → List UInt8
  | p :: h :: l :: rest =>
    if p = 0x25 then
      match escaped? h l with
      | some b => b :: decode rest
      | none => p :: decode (h :: l :: rest)
    else p :: decode (h :: l :: rest)
  | bs => bs

end Unbundled.Percent
