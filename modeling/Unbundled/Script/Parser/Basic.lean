import Unbundled.Script.Lexer

/-!
The parser's state and its steps over tokens. Some rules break without stopping the parser: they
are noted, and count when the script is otherwise accepted. The grammar is a function from goals
to parsers that is given itself for the goals inside a goal.
-/
namespace Unbundled.Script

/-- What the surroundings of a stretch of text allow. -/
structure Surroundings where
  inFunction : Bool := false
  inAsync : Bool := false
  inGenerator : Bool := false
  inParameters : Bool := false
  /-- Whether this is the value of a class field or a static block, without the functions in it. -/
  inClassField : Bool := false
  inPlainFunction : Bool := false
  inClass : Bool := false
  inStaticBlock : Bool := false
  breakAllowed : Bool := false
  continueAllowed : Bool := false
  superAllowed : Bool := false
  /-- Whether `in` is an operator here. -/
  includeIn : Bool := false
  /-- Whether this is the head of a `for`. -/
  loopHead : Bool := false
  /-- Whether this is the head of a `for await`. -/
  awaitedLoopHead : Bool := false
  labels : List String := []

structure ParserState where
  scanner : Scanner
  current : Option Token := none
  ahead : Option Token := none
  /-- The span of the last token that was consumed. -/
  prev : Span := ⟨0, 0⟩
  /-- Where an arrow function may begin. -/
  arrowStart : Option Nat := none
  /-- For each literal that ends in a comma, by its start, the span of the comma. -/
  trailingCommas : List (Nat × Span) := []

abbrev Parser := ReaderT Surroundings (ExceptT Report (StateM ParserState))

/-- What is parsed by recursion. -/
inductive Goal where
  /-- Expressions separated by commas. -/
  | expression
  | assignment
  | unary
  /-- Operators behind a left operand that bind tighter than the given precedence. -/
  | binaryRest (left : Node) (precedence : Nat)
  /-- A member expression; `isNew` when it stands where `new` may lack arguments. -/
  | member (isNew : Bool)
  | bindingTarget (refuseLet : Bool)
  | statement (declarations : Bool) (topLevel : Bool)
  | block

abbrev Grammar := Goal → Parser Node

namespace Parser

def current? : Parser (Option Token) := do
  let s ← get
  match s.current with
  | some t => return some t
  | none =>
    match s.ahead with
    | some t =>
      set { s with current := some t, ahead := none }
      return some t
    | none =>
      let (t, scanner) := s.scanner.next
      set { s with current := t, scanner := scanner }
      return t

/-- The token after the current one. -/
def ahead? : Parser (Option Token) := do
  discard current?
  let s ← get
  match s.ahead with
  | some t => return some t
  | none =>
    let (t, scanner) := s.scanner.next
    set { s with ahead := t, scanner := scanner }
    return t

/-- Consumes the current token. -/
def bump : Parser Unit := do
  match ← current? with
  | some t => modify fun s => { s with current := none, prev := t.span }
  | none => return

/-- Where an error arises: at the current token when it has been looked at, else at the last one
that was consumed. -/
def currentSpan : Parser Span := do
  let s ← get
  return (s.current.map (·.span)).getD s.prev

/-- The start of the current token, or the end of the last one at the end of the text. -/
def currentLo : Parser Nat := do
  match ← current? with
  | some t => return t.span.lo
  | none => return (← get).prev.hi

def prevSpan : Parser Span := return (← get).prev

/-- From `lo` to the end of the last consumed token. -/
def spanFrom (lo : Nat) : Parser Span := return ⟨lo, (← get).prev.hi⟩

def lineBreakBefore : Parser Bool := do
  match ← current? with
  | some t => return t.lineBreakBefore
  | none => return true

def lineBreakBeforeAhead : Parser Bool := do
  match ← ahead? with
  | some t => return t.lineBreakBefore
  | none => return true

def addNote (r : Report) : Parser Unit := modify fun s =>
  { s with scanner := { s.scanner with noted := r :: s.scanner.noted } }

/-- The error of the current token, which is consumed, when it is a token that could not be
read. -/
def takeTokenError? : Parser (Option Report) := do
  match ← current? with
  | some ⟨.error r, _, _⟩ =>
    bump
    return some r
  | _ => return none

/-- Records an error and goes on; a token that could not be read comes first. -/
def note (r : Report) : Parser Unit := do
  if let some e ← takeTokenError? then addNote e
  addNote r

def noteAt (span : Span) (e : SyntaxError) : Parser Unit := note ⟨span, e⟩

/-- Stops; a token that could not be read is the error then. -/
def fail {α : Type} (span : Span) (e : SyntaxError) : Parser α := do
  match ← takeTokenError? with
  | some r => throw r
  | none => throw ⟨span, e⟩

def failHere {α : Type} (e : SyntaxError) : Parser α := do fail (← currentSpan) e

/-- The current token; one that could not be read is an error. -/
def readable? : Parser (Option Token) := do
  match ← takeTokenError? with
  | some r => throw r
  | none => current?

/-- The current token; the end of the text is an error too. -/
def required : Parser Token := do
  match ← readable? with
  | some t => return t
  | none =>
    let s ← get
    throw ⟨⟨s.prev.hi, s.prev.hi⟩, .endOfInput⟩

/-- How the current token is named in an error. -/
def found : Parser String := do
  match ← current? with
  | some t => return t.tok.describe
  | none => return "<eof>"

def unexpected {α : Type} (wanted : String) : Parser α := do
  let f ← found
  failHere (.unexpected f wanted)

def currentTok? : Parser (Option Tok) := return (← current?).map (·.tok)

def readableTok? : Parser (Option Tok) := return (← readable?).map (·.tok)

def aheadTok? : Parser (Option Tok) := return (← ahead?).map (·.tok)

def is (p : Punct) : Parser Bool := return (← currentTok?).any (·.isPunct p)

def isWord (w : Word) : Parser Bool := return (← currentTok?).any (·.isWord w)

def isOp (o : BinaryOp) : Parser Bool := return (← currentTok?).any (·.isOp o)

def isAssign : Parser Bool := do
  match ← currentTok? with
  | some (.assign .assign) => return true
  | _ => return false

def aheadIs (p : Punct) : Parser Bool := return (← aheadTok?).any (·.isPunct p)

def aheadIsWord (w : Word) : Parser Bool := return (← aheadTok?).any (·.isWord w)

def atEnd : Parser Bool := return (← current?).isNone

/-- Runs the second test only where the first one holds. -/
def both (a b : Parser Bool) : Parser Bool := do
  if ← a then b else return false

/-- Runs the second test only where the first one fails. -/
def either (a b : Parser Bool) : Parser Bool := do
  if ← a then return true
  b

def eatIf (test : Parser Bool) : Parser Bool := do
  if ← test then
    bump
    return true
  return false

def eat (p : Punct) : Parser Bool := eatIf (is p)

def eatWord (w : Word) : Parser Bool := eatIf (isWord w)

def eatOp (o : BinaryOp) : Parser Bool := eatIf (isOp o)

def eatAssign : Parser Bool := eatIf isAssign

def expectBy (ate : Bool) (what : String) : Parser Unit := do
  unless ate do
    let f ← found
    failHere (.expected what f)

def expect (p : Punct) : Parser Unit := do expectBy (← eat p) p.text

def expectWord (w : Word) : Parser Unit := do expectBy (← eatWord w) w.text

/-- Whether a statement can end here: at a semicolon, before a closing brace, at the end of the
text or before a line break. -/
def isSemi : Parser Bool := do
  match ← currentTok? with
  | none | some (.punct .semi) | some (.punct .rbrace) => return true
  | _ => lineBreakBefore

def eatSemi : Parser Bool := do
  if ← isSemi then
    discard (eat .semi)
    return true
  return false

def expectSemi : Parser Unit := do expectBy (← eatSemi) ";"

/-- Repeats `step` until it yields a result. -/
def loopFor {α σ : Type} (step : σ → Parser (σ ⊕ α)) : Nat → σ → Parser α
  | 0, _ => failHere .tooDeep
  | fuel + 1, s => do
    match ← step s with
    | .inl s => loopFor step fuel s
    | .inr a => return a

/-- Repeats `step`, which consumes a token each time that it asks to go on. -/
def loop {α σ : Type} (step : σ → Parser (σ ⊕ α)) (s : σ) : Parser α := do
  loopFor step ((← get).scanner.rest.length + 4) s

/-- Runs a parser in other surroundings. -/
def within {α : Type} (change : Surroundings → Surroundings) (p : Parser α) : Parser α :=
  withReader change p

def withIn {α : Type} (p : Parser α) : Parser α := within ({ · with includeIn := true }) p

/-- Runs a parser. An error in it is told together with the stretch of text that called for it,
which is computed then. -/
def labelled {α : Type} (span : Parser Span) (note : String) (p : Parser α) : Parser α := do
  try p
  catch r => throw ⟨r.span, .labelled (r.span, r.error.text) (← span) note⟩

/-- Elements up to `close`, separated by commas, and the comma behind the last one. -/
def commaList {α : Type} (close : Punct) (element : Parser α) : Parser (List α × Option Span) := do
  loop (fun (acc, comma) => do
    if (← atEnd) || (← is close) then return .inr (acc.reverse, comma)
    let a ← element
    if (← atEnd) || (← is close) then return .inl (a :: acc, none)
    expect .comma
    let comma ← prevSpan
    if ← is close then return .inl (a :: acc, some comma)
    return .inl (a :: acc, none)) ([], none)

end Parser

end Unbundled.Script
