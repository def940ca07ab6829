import Unbundled.Text.Literal

/-!
What can be wrong with a JSON text, and how it is reported: a message and the place, as a line from
one and the octets read in that line.
-/
namespace Unbundled.Json

/-- What was found where something else was wanted. -/
inductive Found where
  | null
  | boolean (b : Bool)
  | integer (n : Int)
  | float (text : String)
  | string (s : String)
  | sequence
  | map
  deriving DecidableEq, Repr

def Found.text : Found → String
  | null => "null"
  | boolean b => "boolean \x60" ++ toString b ++ "\x60"
  | integer n => "integer \x60" ++ toString n ++ "\x60"
  | float text => "floating point \x60" ++ text ++ "\x60"
  | string s => "string " ++ Text.stringLiteral s
  | sequence => "sequence"
  | map => "map"

inductive Problem where
  | eofInList
  | eofInObject
  | eofInString
  | eofInValue
  | colonExpected
  | listEndExpected
  | objectEndExpected
  | identExpected
  | valueExpected
  | invalidEscape
  | invalidNumber
  | numberOutOfRange
  | controlCharacter
  | keyNotString
  | loneSurrogate
  | hexEscapeEnd
  | trailingComma
  | trailingCharacters
  | wrongType (found : Found) (wanted : String)
  | wrongValue (found : Found) (wanted : String)
  | unknownField (name : String) (fields : List String)
  | duplicateField (name : String)
  deriving DecidableEq, Repr

/-- A choice of names, in backquotes. -/
def oneOf (names : List String) : String :=
  match names.map fun n => "\x60" ++ n ++ "\x60" with
  | [a] => a
  | [a, b] => a ++ " or " ++ b
  | ns => "one of " ++ ", ".intercalate ns

def Problem.text : Problem → String
  | eofInList => "EOF while parsing a list"
  | eofInObject => "EOF while parsing an object"
  | eofInString => "EOF while parsing a string"
  | eofInValue => "EOF while parsing a value"
  | colonExpected => "expected \x60:\x60"
  | listEndExpected => "expected \x60,\x60 or \x60]\x60"
  | objectEndExpected => "expected \x60,\x60 or \x60\x7d\x60"
  | identExpected => "expected ident"
  | valueExpected => "expected value"
  | invalidEscape => "invalid escape"
  | invalidNumber => "invalid number"
  | numberOutOfRange => "number out of range"
  | controlCharacter =>
    "control character (\\u0000-\\u001F) found while parsing a string"
  | keyNotString => "key must be a string"
  | loneSurrogate => "lone leading surrogate in hex escape"
  | hexEscapeEnd => "unexpected end of hex escape"
  | trailingComma => "trailing comma"
  | trailingCharacters => "trailing characters"
  | wrongType found wanted => "invalid type: " ++ found.text ++ ", expected " ++ wanted
  | wrongValue found wanted => "invalid value: " ++ found.text ++ ", expected " ++ wanted
  | unknownField name fields => "unknown field \x60" ++ name ++ "\x60, expected " ++ oneOf fields
  | duplicateField name => "duplicate field \x60" ++ name ++ "\x60"

/-- A problem and the number of octets read before it was found. -/
structure Fault where
  problem : Problem
  offset : Nat
  deriving DecidableEq, Repr

/-- The line and the column behind the octets `bs`, counted from `line` and `column`. -/
def place (line column : Nat) : List UInt8 → Nat × Nat
  | [] => (line, column)
  | b :: bs => if b = 10 then place (line + 1) 0 bs else place line (column + 1) bs

/-- The message with the place in the text. -/
def Fault.text (input : List UInt8) (f : Fault) : String :=
  let (line, column) := place 1 0 (input.take f.offset)
  f.problem.text ++ " at line " ++ toString line ++ " column " ++ toString column

end Unbundled.Json
