import Unbundled.Script.Comment
import Unbundled.Script.Enclosure
import Unbundled.Text.Blank
import Unbundled.Text.LineEnd
import Unbundled.Text.NameChar
import Unbundled.Text.Split
import Unbundled.Text.Utf8

/-!
The scanner's state and its steps over characters: blanks and comments, names, escapes, strings,
numbers, regular expressions and stretches of templates.
-/
namespace Unbundled.Script

structure Scanner where
  /-- The text that has not been read. -/
  rest : List Char
  /-- The offset of `rest`, in octets. -/
  pos : Nat := 0
  atStart : Bool := true
  /-- A line break stands before the next token. -/
  lineBreak : Bool := true
  /-- The last token. -/
  last : Option Tok := none
  /-- The end of the last token. -/
  lastHi : Nat := 0
  /-- A line break stands before the last token. -/
  lastLineBreak : Bool := true
  enclosure : Enclosure := {}
  /-- Comments for the next token. -/
  pending : List Comment := []
  comments : Comments := {}
  /-- Errors that do not stop the parser, the latest first. -/
  noted : List Report := []
  /-- Where the next token has to be read as a regular expression. -/
  regexFrom : Option (List Char × Nat) := none

/-- A step of the scanner; an error leaves the state where it arose. -/
abbrev Scan := ExceptT Report (StateM Scanner)

/-- Line feed, carriage return and the two Unicode separators. -/
def isLineBreak (c : Char) : Bool :=
  c = '\n' || c = '\r' || c = '\u2028' || c = '\u2029'

def isScriptBlank (c : Char) : Bool := Text.isBlank c || c = '\ufeff'

namespace Scan

def next? : Scan (Option Char) := return (← get).rest.head?

def position : Scan Nat := return (← get).pos

/-- Passes over the characters `cs`, which begin the rest. -/
def skip (cs : List Char) : Scan Unit :=
  modify fun s => { s with rest := s.rest.drop cs.length, pos := s.pos + Utf8.size cs }

def bump : Scan Unit := modify fun s =>
  match s.rest with
  | [] => s
  | c :: cs => { s with rest := cs, pos := s.pos + c.utf8Size }

def eat (c : Char) : Scan Bool := do
  if (← next?) = some c then
    bump
    return true
  return false

def takeWhile (p : Char → Bool) : Scan (List Char) := do
  let cs := (← get).rest.takeWhile p
  skip cs
  return cs

/-- The text between an earlier rest and the current one. -/
def since (earlier : List Char) : Scan (List Char) :=
  return earlier.take (earlier.length - (← get).rest.length)

def report (lo : Nat) (e : SyntaxError) : Scan Report :=
  return ⟨⟨lo, ← position⟩, e⟩

/-- Records an error. -/
def addNote (r : Report) : Scan Unit := modify fun s => { s with noted := r :: s.noted }

/-- Records an error that extends from `lo` to the current place, and goes on. -/
def note (lo : Nat) (e : SyntaxError) : Scan Unit := do addNote (← report lo e)

def fail {α : Type} (lo : Nat) (e : SyntaxError) : Scan α := do
  throw (← report lo e)

/-- Stops with an error that concerns a place only. -/
def failAt {α : Type} (place : Nat) (e : SyntaxError) : Scan α := throw ⟨⟨place, place⟩, e⟩

/-- Passes over blanks and remembers line breaks. -/
def skipBlanks : Scan Unit := do
  let cs ← takeWhile isScriptBlank
  if cs.any isLineBreak then modify fun s => { s with lineBreak := true }

/-- Keeps a comment for the next token or attaches it behind the last one. -/
def store (forNext : Bool) (c : Comment) : Scan Unit := modify fun s =>
  if forNext then { s with pending := s.pending ++ [c] }
  else { s with comments := s.comments.addTrailing s.lastHi c }

/-- A comment up to the end of the line, `mark` being the characters that open it. -/
def lineComment (mark : List Char) : Scan Unit := do
  let s ← get
  skip mark
  let text ← takeWhile fun c => !isLineBreak c
  store (s.lineBreak || s.last.any Tok.isBinary) ⟨false, String.ofList text⟩

/-- A comment from `/*` to `*/`. One that a `;` follows belongs to the token before it. -/
def blockComment : Scan Unit := do
  let s ← get
  skip ['/', '*']
  let forNext := s.lineBreak || !s.last.any Tok.keepsComments
  match Text.splitOnce? ['*', '/'] (← get).rest with
  | none =>
    let text ← takeWhile fun _ => true
    if text.any isLineBreak then modify fun s => { s with lineBreak := true }
    note (← position) .unterminatedComment
  | some (text, _) =>
    skip text
    skip ['*', '/']
    if text.any isLineBreak then modify fun s => { s with lineBreak := true }
    skipBlanks
    let beforeSemi := (← next?) = some ';'
    store (forNext && !beforeSemi) ⟨true, String.ofList text⟩

/-- Blanks and comments, at most `fuel` comments of them. -/
def skipTrivia : Nat → Scan Unit
  | 0 => skipBlanks
  | fuel + 1 => do
    skipBlanks
    match (← get).rest with
    | '/' :: '/' :: _ => lineComment ['/', '/']; skipTrivia fuel
    | '/' :: '*' :: _ => blockComment; skipTrivia fuel
    | _ => return

/-- Digits, `read` being those before them, the last first. Underscores are passed over; one that
does not stand between two digits is noted at `start`. Reading ends where `enough` holds of the digits. -/
def digitsFrom (radix start : Nat) (enough : List Char → Bool) :
    Nat → List Char → Scan (List Char)
  | 0, read => return read.reverse
  | fuel + 1, read => do
    match (← get).rest with
    | '_' :: after =>
      if read.isEmpty || !after.head?.any (Numeral.isDigit radix) then
        note start .misplacedSeparator
      bump
      digitsFrom radix start enough fuel read
    | c :: _ =>
      if !Numeral.isDigit radix c then return read.reverse
      bump
      if enough (c :: read) then return (c :: read).reverse
      digitsFrom radix start enough fuel (c :: read)
    | [] => return read.reverse

def digitsUntil (radix : Nat) (enough : List Char → Bool) : Scan (List Char) := do
  digitsFrom radix (← position) enough ((← get).rest.length + 1) []

/-- The value of `count` hexadecimal digits, or of any number of them where `count` is zero; `none`
when there are too few or the value does not fit 32 bits. -/
def hexValue? (count : Nat) : Scan (Option Nat) := do
  let tooLarge := fun (read : List Char) => Nat.pow 2 32 ≤ Numeral.ofDigits 16 read.reverse
  let cs ← digitsUntil 16 fun read => read.length = count || tooLarge read
  if cs.isEmpty || cs.length < count || tooLarge cs.reverse then return none
  return some (Numeral.ofDigits 16 cs)

/-- An escaped surrogate, kept as it is written: from `earlier`, which is its first digit, up to
`limit` characters are read again. -/
def surrogate (earlier : Scanner) (curly : Bool) (limit : Nat) : Scan (List Char) := do
  modify fun s => { s with rest := earlier.rest, pos := earlier.pos }
  let written := earlier.rest.take limit
  let written := if curly then written.takeWhile (· ≠ '\x7d') else written
  skip written
  return if curly then ['\\', 'u', '\x7b'] ++ written ++ ['\x7d'] else ['\\', 'u'] ++ written

/-- What follows a backslash and a `u`. -/
def unicodeEscape : Scan (List Char) := do
  bump
  let curly ← eat '\x7b'
  let before ← get
  match ← hexValue? (if curly then 0 else 4) with
  | none =>
    fail (← position) (.badEscape (if curly then "1-6 hex characters" else "4 hex characters"))
  | some n =>
    if 0x10FFFF < n then
      fail (← position) (.badEscape "1-6 hex characters in the range 0 to 10FFFF.")
    let cs ←
      if 0xD800 ≤ n ∧ n ≤ 0xDFFF then surrogate before curly (if curly then 6 else 4)
      else pure [Char.ofNat n]
    if curly then
      unless ← eat '\x7d' do fail before.pos .badUnicodeEscape
    return cs

/-- Up to three octal digits after a backslash, as long as the value fits an octet. -/
def octalEscape : Scan (List Char) := do
  let digits := ((← get).rest.takeWhile (Numeral.isDigit 8)).take 3
  let digits := if 255 < Numeral.ofDigits 8 digits then digits.take 2 else digits
  skip digits
  return [Char.ofNat (Numeral.ofDigits 8 digits)]

/-- The characters that an escape stands for; a line break after the backslash stands for none. -/
def escape (inTemplate : Bool) : Scan (List Char) := do
  let start ← position
  bump
  match ← next? with
  | none => failAt start .badStringEscape
  | some c =>
    if c = 'u' then
      try unicodeEscape catch e => fail start e.error
    else if c = 'x' then
      bump
      match ← hexValue? 2 with
      | some n => return [Char.ofNat n]
      | none => fail start (.badEscape "2 hex characters")
    else if c = '0' ∧ !((← get).rest.drop 1).head?.any (Numeral.isDigit 8) then
      bump
      return ['\x00']
    else if Numeral.isDigit 8 c then
      if inTemplate then
        bump
        fail start .legacyOctal
      note start .legacyOctal
      octalEscape
    else
      bump
      if c = '\r' then
        discard (eat '\n')
        return []
      if isLineBreak c then return []
      return [match c with
        | 'n' => '\n'
        | 'r' => '\r'
        | 't' => '\t'
        | 'b' => '\x08'
        | 'v' => '\x0b'
        | 'f' => '\x0c'
        | _ => c]

/-- The rest of a string whose opening quote has been read, and whether it is closed. -/
def stringBody (quote : Char) : Nat → List Char → Scan (List Char × Bool)
  | 0, value => return (value, false)
  | fuel + 1, value => do
    let plain ← takeWhile fun c => !(c = quote || c = '\\' || c = '\n' || c = '\r')
    let value := value ++ plain
    match ← next? with
    | some c =>
      if c = quote then
        bump
        return (value, true)
      if c = '\\' then stringBody quote fuel (value ++ (← escape false))
      else return (value, false)
    | none => return (value, false)

def string (quote : Char) : Scan Tok := do
  let start ← position
  let before := (← get).rest
  bump
  let (value, closed) ← stringBody quote (before.length + 1) []
  unless closed do note start .unterminatedString
  return .str (String.ofList value) (String.ofList (← since before))

/-- A stretch of a template up to a backquote or `$` and a brace, behind `cooked`. -/
def templateBody (start : Nat) :
    Nat → List Char → Option Report → Scan (List Char × Option Report)
  | 0, cooked, fault => return (cooked, fault)
  | fuel + 1, cooked, fault => do
    let plain ← takeWhile fun c => !(c = '\x60' || c = '$' || c = '\\')
    let cooked := cooked ++ Text.unifyLineEnds plain
    match (← get).rest with
    | [] => fail start .unterminatedTemplate
    | '\x60' :: _ | '$' :: '\x7b' :: _ => return (cooked, fault)
    | '\\' :: _ =>
      let (cs, fault) ← try
        let cs ← escape true
        pure (cs, fault)
      catch e => pure ([], some e)
      templateBody start fuel (cooked ++ cs) fault
    | _ =>
      bump
      templateBody start fuel (cooked ++ ['$']) fault

/-- The next token inside a template. -/
def template : Scan Tok := do
  let s ← get
  match s.last.any Tok.isTemplate, s.rest with
  | true, '\x60' :: _ =>
    bump
    return .punct .backquote
  | true, '$' :: '\x7b' :: _ =>
    skip ['$', '\x7b']
    return .punct .dollarBrace
  | _, _ =>
    let (cooked, fault) ← templateBody s.pos (s.rest.length + 1) [] none
    return .template (String.ofList (← since s.rest)) (String.ofList cooked) fault

/-- The name at the current place, and whether an escape occurs in it. -/
def nameBody : Nat → List Char → Bool → Scan (List Char × Bool)
  | 0, acc, escaped => return (acc, escaped)
  | fuel + 1, acc, escaped => do
    let start ← position
    let acc := acc ++ (← takeWhile Text.isNamePart)
    if (← next?) ≠ some '\\' then return (acc, escaped)
    bump
    unless (← next?) = some 'u' do failAt start .expectedUnicodeEscape
    let cs ← unicodeEscape
    unless cs.head?.any Text.isNamePart do note start .badIdentifierChar
    nameBody fuel (acc ++ cs) true

/-- A name. A word that begins with an escape is no keyword and has no meaning of its own; in
other reserved words escapes are refused. -/
def name : Scan Tok := do
  let start ← position
  let isPlain := (← next?) = some '\\'
  let (cs, escaped) ← nameBody ((← get).rest.length + 1) [] false
  let text := String.ofList cs
  let word := if isPlain then none else Word.ofText? text
  if escaped && word.any Word.isReserved then fail start (.escapedReservedWord text)
  return .word word text

def allDigits (radix : Nat) : Scan (List Char) := digitsUntil radix fun _ => false

/-- A number must not run into a name. -/
def notName : Scan Unit := do
  if (← next?).any Text.isNameStart then failAt (← position) .identifierAfterNumber

def someDigits (radix : Nat) : Scan (List Char) := do
  let start ← position
  let cs ← allDigits radix
  if cs.isEmpty then fail start (.expectedDigit radix)
  return cs

def radixNumber (radix : Nat) (before : List Char) : Scan Tok := do
  bump
  bump
  discard (someDigits radix)
  if ← eat 'n' then return .bigint (String.ofList (← since before))
  notName
  return .num (String.ofList (← since before))

/-- The part of a decimal after its whole digits. -/
def fraction (before : List Char) : Scan Tok := do
  if ← eat '.' then discard (allDigits 10)
  if (← next?).any fun c => c = 'e' || c = 'E' then
    bump
    match ← next? with
    | none => fail (← position) .missingExponent
    | some c =>
      if c = '+' || c = '-' then bump
      discard (someDigits 10)
  notName
  return .num (String.ofList (← since before))

/-- A number. In a module a leading zero before other digits is an error that is noted. -/
def number : Scan Tok := do
  let start ← position
  let before := (← get).rest
  match before with
  | '0' :: 'x' :: _ | '0' :: 'X' :: _ => radixNumber 16 before
  | '0' :: 'o' :: _ | '0' :: 'O' :: _ => radixNumber 8 before
  | '0' :: 'b' :: _ | '0' :: 'B' :: _ => radixNumber 2 before
  | '.' :: _ => fraction before
  | _ =>
    let whole ← allDigits 10
    if ← eat 'n' then return .bigint (String.ofList (← since before))
    if whole.head? = some '0' ∧ 1 < (← since before).length then
      if whole.any fun c => c = '8' || c = '9' then
        note start .legacyDecimal
        fraction before
      else
        notName
        note start .legacyOctal
        return .num (String.ofList (← since before))
    else fraction before

/-- The length of the body of a regular expression, or `none` when it is not closed. -/
def regexLength? : List Char → Bool → Bool → Option Nat
  | [], _, _ => none
  | c :: cs, escaped, inClass =>
    if isLineBreak c then none
    else if escaped then (regexLength? cs false inClass).map (· + 1)
    else if c = '/' ∧ !inClass then some 0
    else
      let inClass := if c = '[' then true else if c = ']' then false else inClass
      (regexLength? cs (c = '\\') inClass).map (· + 1)

/-- A regular expression whose first slash begins the rest. -/
def regex : Scan Tok := do
  let start ← position
  bump
  match regexLength? (← get).rest false false with
  | none => fail start .unterminatedRegex
  | some n =>
    let body := (← get).rest.take n
    skip body
    bump
    if (← next?).any fun c => Text.isNameStart c then
      let (flags, _) ← nameBody ((← get).rest.length + 1) [] false
      return .regex (String.ofList body) (String.ofList flags)
    return .regex (String.ofList body) ""

end Scan

end Unbundled.Script
