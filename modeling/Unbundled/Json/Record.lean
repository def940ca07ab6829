import Unbundled.Json.Reader

/-!
Reading values of known types, and records: objects whose keys name fields, or lists that give the
fields in their order. A field that is missing keeps the value of the empty record.
-/
namespace Unbundled.Json

/-- A field of a record: its name, and how a value that is read changes the record. -/
structure Field (α : Type) where
  name : String
  read : Read (α → α)

/-- The form of a record. -/
structure Schema (α : Type) where
  name : String
  empty : α
  fields : List (Field α)
  /-- A closed record has no keys other than its fields. -/
  closed : Bool

namespace Read

/-- Refuses the value whose first character is `c`; `wanted` says what should stand there. -/
def refuse {α : Type} (wanted : String) (c : Char) : Read α := do
  match c with
  | 'n' =>
    bump
    word ['u', 'l', 'l']
    fail (.wrongType .null wanted)
  | 't' =>
    bump
    word ['r', 'u', 'e']
    fail (.wrongType (.boolean true) wanted)
  | 'f' =>
    bump
    word ['a', 'l', 's', 'e']
    fail (.wrongType (.boolean false) wanted)
  | '-' =>
    bump
    let n ← number true
    fail (.wrongType n.found wanted)
  | '"' =>
    bump
    let s ← string
    fail (.wrongType (.string s) wanted)
  | '[' => fail (.wrongType .sequence wanted)
  | '\x7b' => fail (.wrongType .map wanted)
  | c =>
    if c.isDigit then
      let n ← number false
      fail (.wrongType n.found wanted)
    else failNext .valueExpected

/-- The first character of a value. -/
def valueStart : Read Char := do
  match ← peekBehindBlanks? with
  | some c => return c
  | none => failNext .eofInValue

def stringValue (wanted : String) : Read String := do
  match ← valueStart with
  | '"' =>
    bump
    string
  | c => refuse wanted c

/-- A whole number from zero to `greatest`. -/
def natValue (wanted : String) (greatest : Nat) : Read Nat := do
  let c ← valueStart
  let n ←
    if c = '-' then do
      bump
      number true
    else if c.isDigit then number false
    else refuse wanted c
  match n with
  | .integer (.ofNat n) =>
    if n ≤ greatest then return n else fail (.wrongValue (.integer n) wanted)
  | .integer n => fail (.wrongValue (.integer n) wanted)
  | .float text => fail (.wrongType (.float text) wanted)

/-- A value that `null` leaves out. -/
def optional {α : Type} (value : Read α) : Read (Option α) := do
  match ← peekBehindBlanks? with
  | some 'n' =>
    bump
    word ['u', 'l', 'l']
    return none
  | _ => return some (← value)

/-! ### Objects -/

/-- The next key of an object, or `none` at its end, which stays unread. -/
def key? (first : Bool) : Read (Option String) := do
  let keyAt (c : Char) : Read (Option String) := do
    if c = '"' then
      bump
      return some (← string)
    else failNext .keyNotString
  match ← peekBehindBlanks? with
  | none => failNext .eofInObject
  | some '\x7d' => return none
  | some c =>
    if first then keyAt c
    else if c = ',' then
      bump
      match ← peekBehindBlanks? with
      | none => failNext .eofInValue
      | some '\x7d' => failNext .trailingComma
      | some c => keyAt c
    else failNext .objectEndExpected

def colon : Read Unit := do
  match ← peekBehindBlanks? with
  | some ':' => bump
  | some _ => failNext .colonExpected
  | none => failNext .eofInObject

/-- Refuses a key. The end of the object is read first if it is next. -/
def refuseKey {α : Type} (p : Problem) : Read α := do
  if (← peekBehindBlanks?) == some '\x7d' then bump
  fail p

/-- The members of an object up to its end; `seen` names the fields that have been read. -/
def members {α : Type} (schema : Schema α) : Nat → List String → α → Read α
  | 0, _, _ => fail .eofInObject
  | fuel + 1, seen, a => do
    match ← key? seen.isEmpty with
    | none => return a
    | some key =>
      match schema.fields.find? (·.name = key) with
      | some field =>
        if key ∈ seen then refuseKey (.duplicateField key)
        colon
        let change ← field.read
        members schema fuel (key :: seen) (change a)
      | none =>
        if schema.closed then refuseKey (.unknownField key (schema.fields.map (·.name)))
        colon
        skip
        members schema fuel (key :: seen) a

/-! ### Lists -/

/-- Whether an item follows in a list. -/
def hasItem (first : Bool) : Read Bool := do
  match ← peekBehindBlanks? with
  | none => failNext .eofInList
  | some ']' => return false
  | some c =>
    if first then return true
    if c = ',' then
      bump
      match ← peekBehindBlanks? with
      | none => failNext .eofInValue
      | some ']' => failNext .trailingComma
      | some _ => return true
    else failNext .listEndExpected

/-- The items of a list, each of them the value of the next field. -/
def items {α : Type} (first : Bool) (a : α) : List (Field α) → Read α
  | [] => return a
  | field :: fields => do
    if ← hasItem first then
      let change ← field.read
      items false (change a) fields
    else return a

/-- The end of a list that has no further fields. -/
def listEnd : Read Unit := do
  match ← peekBehindBlanks? with
  | some ']' => bump
  | some ',' =>
    bump
    match ← peekBehindBlanks? with
    | some ']' => failNext .trailingComma
    | _ => failNext .trailingCharacters
  | some _ => failNext .trailingCharacters
  | none => failNext .eofInList

def record {α : Type} (schema : Schema α) : Read α := do
  match ← valueStart with
  | '\x7b' =>
    bump
    let a ← members schema ((← get).rest.length + 1) [] schema.empty
    bump
    return a
  | '[' =>
    bump
    let a ← items true schema.empty schema.fields
    listEnd
    return a
  | c => refuse ("struct " ++ schema.name) c

/-- Nothing but blanks is left. -/
def textEnd : Read Unit := do
  if (← peekBehindBlanks?).isSome then failNext .trailingCharacters

end Read

/-- The record that a text holds, or the wording of its first fault. -/
def Schema.ofText {α : Type} (schema : Schema α) (text : String) : Except String α :=
  let input := Utf8.encode text.toList
  let read := do
    let a ← Read.record schema
    Read.textEnd
    return a
  match read.run.run ⟨input, 0⟩ with
  | (.ok a, _) => .ok a
  | (.error f, _) => .error (f.text input)

end Unbundled.Json
