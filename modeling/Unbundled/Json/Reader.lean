import Unbundled.Json.Number
import Unbundled.Json.Problem
import Unbundled.Text.Utf8

/-!
Reading JSON texts octet by octet: blanks, words, strings, numbers, and values that are passed
over. A problem is reported where the octets read so far end, or behind the octet that is next.
-/
namespace Unbundled.Json

structure Input where
  rest : List UInt8
  /-- How many octets have been read. -/
  pos : Nat := 0

abbrev Read := ExceptT Fault (StateM Input)

namespace Read

/-- The next octet, as the character of that number. -/
def peek? : Read (Option Char) :=
  return (← get).rest.head?.map fun b => Char.ofNat b.toNat

def bump : Read Unit := modify fun s =>
  match s.rest with
  | [] => s
  | _ :: bs => ⟨bs, s.pos + 1⟩

def next? : Read (Option Char) := do
  let c? ← peek?
  bump
  return c?

/-- Stops with a problem in what has been read. -/
def fail {α : Type} (p : Problem) : Read α := do throw ⟨p, (← get).pos⟩

/-- Stops with a problem in the next octet. -/
def failNext {α : Type} (p : Problem) : Read α := do
  let s ← get
  throw ⟨p, if s.rest.isEmpty then s.pos else s.pos + 1⟩

def isBlank (b : UInt8) : Bool := b = 32 || b = 10 || b = 9 || b = 13

/-- Passes over blanks and looks at what follows. -/
def peekBehindBlanks? : Read (Option Char) := do
  modify fun s =>
    let rest := s.rest.dropWhile isBlank
    ⟨rest, s.pos + (s.rest.length - rest.length)⟩
  peek?

/-- Reads the rest of a word. -/
def word : List Char → Read Unit
  | [] => return
  | c :: cs => do
    match ← next? with
    | none => fail .eofInValue
    | some d => if d = c then word cs else fail .identExpected

/-- Takes the digits that are next. -/
def digits : Read (List Char) := do
  let s ← get
  let isDigit (b : UInt8) := 48 ≤ b && b ≤ 57
  let ds := s.rest.takeWhile isDigit
  set (⟨s.rest.drop ds.length, s.pos + ds.length⟩ : Input)
  return ds.map fun b => Char.ofNat b.toNat

/-! ### Strings -/

def hexValue? (c : Char) : Option Nat :=
  let n := c.toNat
  if 48 ≤ n && n ≤ 57 then some (n - 48)
  else if 65 ≤ n && n ≤ 70 then some (n - 55)
  else if 97 ≤ n && n ≤ 102 then some (n - 87)
  else none

/-- The four hexadecimal digits of an escape. -/
def hexEscape : Read Nat := do
  let s ← get
  let four := s.rest.take 4
  set (⟨s.rest.drop 4, s.pos + four.length⟩ : Input)
  if four.length < 4 then fail .eofInString
  match four.mapM fun b => hexValue? (Char.ofNat b.toNat) with
  | some ds => return ds.foldl (fun n d => 16 * n + d) 0
  | none => fail .invalidEscape

/-- Reads the octet that a pair of surrogates needs here. -/
def pairOctet (c : Char) : Read Unit := do
  match ← next? with
  | none => fail .eofInString
  | some d => unless d = c do fail .hexEscapeEnd

/-- The character of an escape behind its `u`; two surrogates make one character. -/
def unicodeEscape : Read Char := do
  let n ← hexEscape
  if 0xDC00 ≤ n && n ≤ 0xDFFF then fail .loneSurrogate
  if !(0xD800 ≤ n && n ≤ 0xDBFF) then return Char.ofNat n
  pairOctet '\\'
  pairOctet 'u'
  let m ← hexEscape
  if m < 0xDC00 || 0xDFFF < m then fail .loneSurrogate
  return Char.ofNat ((n - 0xD800) * 0x400 + (m - 0xDC00) + 0x10000)

/-- The characters that a single letter behind a backslash stands for. -/
def letterEscapes : List (Char × Char) :=
  [('"', '"'), ('\\', '\\'), ('/', '/'), ('b', '\x08'), ('f', '\x0c'), ('n', '\n'), ('r', '\r'),
   ('t', '\t')]

/-- The octets of an escape behind its backslash. -/
def escape : Read (List UInt8) := do
  match ← next? with
  | none => fail .eofInString
  | some 'u' => return Utf8.encode [← unicodeEscape]
  | some c =>
    match letterEscapes.lookup c with
    | some d => return Utf8.encode [d]
    | none => fail .invalidEscape

/-- The octets of a string behind its opening quote, and those before them in reverse. -/
def stringFrom : Nat → List UInt8 → Read (List UInt8)
  | 0, _ => fail .eofInString
  | fuel + 1, before => do
    match (← get).rest with
    | [] => fail .eofInString
    | b :: _ =>
      bump
      if b = 34 then return before.reverse
      else if b = 92 then
        let bs ← escape
        stringFrom fuel (bs.reverse ++ before)
      else if b < 32 then fail .controlCharacter
      else stringFrom fuel (b :: before)

/-- A string behind its opening quote. -/
def string : Read String := do
  let bs ← stringFrom ((← get).rest.length + 1) []
  return String.ofList (Utf8.decodeLossy bs)

/-- Passes over a string behind its opening quote; surrogates may stand alone. -/
def skipStringFrom : Nat → Read Unit
  | 0 => fail .eofInString
  | fuel + 1 => do
    match (← get).rest with
    | [] => fail .eofInString
    | b :: _ =>
      if b = 34 then bump
      else if b = 92 then
        bump
        match ← next? with
        | none => fail .eofInString
        | some 'u' => discard hexEscape
        | some c => if (letterEscapes.lookup c).isNone then fail .invalidEscape
        skipStringFrom fuel
      else if b < 32 then fail .controlCharacter
      else
        bump
        skipStringFrom fuel

def skipString : Read Unit := do skipStringFrom ((← get).rest.length + 1)

/-! ### Numbers -/

/-- The value of a number, with what is needed to name it. -/
inductive Number where
  | integer (n : Int)
  | float (text : String)
  deriving DecidableEq, Repr

def Number.found : Number → Found
  | integer n => .integer n
  | float text => .float text

/-- The greatest significand, and the greatest exponent. -/
def maxSignificand : Nat := Nat.pow 2 64 - 1

def maxExponent : Nat := Nat.pow 2 31 - 1

/-- Adds digits to `n` as long as the result is at most `limit`; the digits that are left over
follow. -/
def accumulate (limit n : Nat) : List Char → Nat × List Char
  | [] => (n, [])
  | c :: cs =>
    let n' := n * 10 + (c.toNat - 48)
    if n' ≤ limit then accumulate limit n' cs else (n, c :: cs)

def floatOf (negative : Bool) (significand : Nat) (exponent : Int) : Read Number := do
  match scaled? significand exponent with
  | some b => return .float (floatText negative b)
  | none => fail .numberOutOfRange

/-- The exponent at `e`, added to the one that the digits before it call for. -/
def exponentPart (negative : Bool) (significand : Nat) (exponent : Int) : Read Number := do
  bump
  let isNegative := (← peek?) == some '-'
  if isNegative || (← peek?) == some '+' then bump
  match ← next? with
  | none => fail .eofInValue
  | some c =>
    unless c.isDigit do fail .invalidNumber
    let ds ← digits
    let (n, tooMany) := accumulate maxExponent 0 (c :: ds)
    unless tooMany.isEmpty do
      if significand ≠ 0 && !isNegative then
        throw ⟨.numberOutOfRange, (← get).pos + 1 - tooMany.length⟩
      return .float (floatText negative ⟨0, 0⟩)
    floatOf negative significand (exponent + if isNegative then -(n : Int) else n)

/-- The fraction at a point, and the exponent behind it. -/
def fractionPart (negative : Bool) (significand : Nat) (exponent : Int) : Read Number := do
  bump
  let ds ← digits
  if ds.isEmpty then
    match ← peek? with
    | some _ => failNext .invalidNumber
    | none => failNext .eofInValue
  let (significand, ignored) := accumulate maxSignificand significand ds
  let exponent := exponent - ((ds.length - ignored.length : Nat) : Int)
  match ← peek? with
  | some 'e' | some 'E' => exponentPart negative significand exponent
  | _ => floatOf negative significand exponent

/-- What follows the digits of the whole part; `ignored` of them were too many. -/
def afterDigits (negative : Bool) (significand ignored : Nat) : Read Number := do
  match ← peek? with
  | some '.' => fractionPart negative significand ignored
  | some 'e' | some 'E' => exponentPart negative significand ignored
  | _ =>
    if ignored ≠ 0 then floatOf negative significand ignored
    else if !negative then return .integer significand
    else if significand = 0 || Nat.pow 2 63 < significand then floatOf true significand 0
    else return .integer (-significand)

/-- A number behind its sign. -/
def number (negative : Bool) : Read Number := do
  match ← next? with
  | none => fail .eofInValue
  | some '0' =>
    if (← peek?).any Char.isDigit then failNext .invalidNumber
    afterDigits negative 0 0
  | some c =>
    unless c.isDigit do fail .invalidNumber
    let ds ← digits
    let (significand, ignored) := accumulate maxSignificand 0 (c :: ds)
    afterDigits negative significand ignored.length

/-- Passes over an exponent at its `e`. -/
def skipExponent : Read Unit := do
  bump
  let c? ← peek?
  if c? == some '-' || c? == some '+' then bump
  unless (← next?).any Char.isDigit do fail .invalidNumber
  discard digits

/-- Passes over a number behind its sign. -/
def skipNumber : Read Unit := do
  match ← next? with
  | some '0' => if (← peek?).any Char.isDigit then failNext .invalidNumber
  | some c =>
    unless c.isDigit do fail .invalidNumber
    discard digits
  | none => fail .invalidNumber
  if (← peek?) == some '.' then
    bump
    if (← digits).isEmpty then failNext .invalidNumber
  let c? ← peek?
  if c? == some 'e' || c? == some 'E' then skipExponent

/-! ### Values that nobody asks for -/

/-- A key and its colon, behind the brace or the comma. -/
def skipKey : Read Unit := do
  match ← peekBehindBlanks? with
  | some '"' => bump
  | some _ => failNext .keyNotString
  | none => failNext .eofInObject
  skipString
  match ← peekBehindBlanks? with
  | some ':' => bump
  | some _ => failNext .colonExpected
  | none => failNext .eofInObject

mutual

/-- Passes over a value. -/
def skipValue : Nat → Read Unit
  | 0 => failNext .valueExpected
  | fuel + 1 => do
    match ← peekBehindBlanks? with
    | none => failNext .eofInValue
    | some 'n' =>
      bump
      word ['u', 'l', 'l']
    | some 't' =>
      bump
      word ['r', 'u', 'e']
    | some 'f' =>
      bump
      word ['a', 'l', 's', 'e']
    | some '-' =>
      bump
      skipNumber
    | some '"' =>
      bump
      skipString
    | some '[' =>
      bump
      match ← peekBehindBlanks? with
      | some ']' => bump
      | none => failNext .eofInList
      | some _ => skipItems fuel
    | some '\x7b' =>
      bump
      match ← peekBehindBlanks? with
      | some '\x7d' => bump
      | none => failNext .eofInObject
      | some _ => skipMembers fuel
    | some c => if c.isDigit then skipNumber else failNext .valueExpected

/-- Passes over the items of a list and its end. -/
def skipItems : Nat → Read Unit
  | 0 => failNext .listEndExpected
  | fuel + 1 => do
    skipValue fuel
    match ← peekBehindBlanks? with
    | some ',' =>
      bump
      skipItems fuel
    | some ']' => bump
    | some _ => failNext .listEndExpected
    | none => failNext .eofInList

/-- Passes over the members of an object and its end. -/
def skipMembers : Nat → Read Unit
  | 0 => failNext .objectEndExpected
  | fuel + 1 => do
    skipKey
    skipValue fuel
    match ← peekBehindBlanks? with
    | some ',' =>
      bump
      skipMembers fuel
    | some '\x7d' => bump
    | some _ => failNext .objectEndExpected
    | none => failNext .eofInObject

end

def skip : Read Unit := do skipValue ((← get).rest.length + 1)

end Read

end Unbundled.Json
