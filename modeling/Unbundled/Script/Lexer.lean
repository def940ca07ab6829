import Unbundled.Script.Scanner

/-!
Reading tokens one at a time. A slash is read as an operator; the parser asks for a regular
expression where only an expression can stand.
-/
namespace Unbundled.Script

/-- Punctuation and operators, longer ones before their prefixes. -/
def symbols : List (List Char × Tok) := [
  (['>', '>', '>', '='], .assign .ushrA),
  (['.', '.', '.'], .punct .ellipsis), (['=', '=', '='], .op .eq3), (['!', '=', '='], .op .ne2),
  (['*', '*', '='], .assign .powA), (['<', '<', '='], .assign .shlA),
  (['>', '>', '='], .assign .shrA), (['>', '>', '>'], .op .ushr),
  (['&', '&', '='], .assign .logAndA), (['|', '|', '='], .assign .logOrA),
  (['?', '?', '='], .assign .nullishA),
  (['=', '>'], .punct .arrow), (['=', '='], .op .eq2), (['!', '='], .op .ne),
  (['+', '+'], .punct .plusPlus), (['-', '-'], .punct .minusMinus), (['+', '='], .assign .addA),
  (['-', '='], .assign .subA), (['*', '*'], .op .pow), (['*', '='], .assign .mulA),
  (['/', '='], .assign .divA), (['%', '='], .assign .modA), (['<', '<'], .op .shl),
  (['<', '='], .op .le), (['>', '>'], .op .shr), (['>', '='], .op .ge), (['&', '&'], .op .and),
  (['&', '='], .assign .andA), (['|', '|'], .op .or), (['|', '='], .assign .orA),
  (['^', '='], .assign .xorA), (['?', '?'], .op .nullish),
  (['('], .punct .lparen), ([')'], .punct .rparen), (['\x7b'], .punct .lbrace),
  (['\x7d'], .punct .rbrace), (['['], .punct .lbracket), ([']'], .punct .rbracket),
  ([';'], .punct .semi), ([','], .punct .comma), ([':'], .punct .colon),
  (['?'], .punct .question), (['.'], .punct .dot), (['#'], .punct .hash), (['@'], .punct .atSign),
  (['\x60'], .punct .backquote), (['!'], .punct .bang), (['~'], .punct .tilde),
  (['='], .assign .assign), (['+'], .op .plus), (['-'], .op .minus), (['*'], .op .star),
  (['/'], .op .slash), (['%'], .op .percent), (['<'], .op .lt), (['>'], .op .gt),
  (['&'], .op .bitAnd), (['|'], .op .bitOr), (['^'], .op .bitXor)]

/-- What a merge of texts leaves behind where they could not be merged: seven marks at the start
of a line, with a blank behind them unless they stand between the texts. -/
def conflictMarks : List (List Char) :=
  [List.replicate 7 '=', List.replicate 7 '<' ++ [' '], List.replicate 7 '>' ++ [' '],
    List.replicate 7 '|' ++ [' ']]

namespace Scan

def symbol : Scan Tok := do
  let s ← get
  match symbols.find? fun (cs, _) => Text.startsWith cs s.rest with
  | some (cs, tok) =>
    skip cs
    return tok
  | none =>
    bump
    failAt s.pos (.unexpectedChar (s.rest.head?.getD ' '))

/-- Passes over the rest of the line as if `mark`, which begins it, opened a comment. -/
def skipLine (mark : List Char) : Scan Unit := do
  let s ← get
  lineComment mark
  skipTrivia (s.rest.length + 1)

/-- The token at the current place, which is not blank; `none` at the end of the text. The marks
of old-style comments and of conflicts are noted as errors and what follows them on the line is
passed over. -/
def token? : Nat → Scan (Option Tok)
  | 0 => return none
  | fuel + 1 => do
    let s ← get
    if s.lineBreak then
      if let some mark := conflictMarks.find? fun mark => Text.startsWith mark s.rest then
        addNote ⟨⟨s.pos, s.pos + 7⟩, .conflictMark⟩
        skipLine mark
        if mark.head? = some '|' then throw ⟨⟨s.pos, s.pos + 7⟩, .conflictMark⟩
        return ← token? fuel
    match s.rest with
    | [] => return none
    | '<' :: '!' :: '-' :: '-' :: _ =>
      skipLine ['<', '!', '-', '-']
      note s.pos .legacyComment
      token? fuel
    | '.' :: d :: _ => if Numeral.isDigit 10 d then some <$> number else some <$> symbol
    | '"' :: _ => some <$> string '"'
    | '\'' :: _ => some <$> string '\''
    | c :: _ =>
      if s.lineBreak ∧ Text.startsWith ['-', '-', '>'] s.rest then
        note s.pos .legacyComment
        skipLine ['-', '-', '>']
        token? fuel
      else if Numeral.isDigit 10 c then some <$> number
      else if Text.isNameStart c || c = '\\' then some <$> name
      else some <$> symbol

/-- The `#!` line that may begin a script. -/
def shebang? : Scan (Option Tok) := do
  match (← get).rest with
  | '#' :: '!' :: _ =>
    skip ['#', '!']
    return some (.shebang (String.ofList (← takeWhile fun c => !isLineBreak c)))
  | _ => return none

/-- Passes over everything that belongs to no token. A NUL is such a character, and hides the
line breaks before it. -/
def skipToToken : Nat → Scan Unit
  | 0 => return
  | fuel + 1 => do
    modify fun s => { s with lineBreak := s.atStart, atStart := false }
    skipTrivia ((← get).rest.length + 1)
    if ← eat '\x00' then skipToToken fuel

/-- The next token and its start; `none` at the end of the text. -/
def next (start : Nat) : Scan (Option (Tok × Nat)) := do
  let s ← get
  if let some (cs, pos) := s.regexFrom then
    set { s with rest := cs, pos := pos }
    return some (← regex, start)
  if s.atStart then
    if let some tok ← shebang? then return some (tok, start)
  if s.enclosure.inTemplate then
    set { s with lineBreak := s.atStart, atStart := false }
    if s.rest.isEmpty then return none
    let tok ← template
    return some (tok, start)
  skipToToken (s.rest.length + 1)
  let start ← position
  match ← token? (s.rest.length + 1) with
  | some tok => return some (tok, start)
  | none => return none

end Scan

namespace Scanner

/-- Comments for a token that has been found, or the last ones of the text. -/
def settleComments (s : Scanner) (start? : Option Nat) : Scanner :=
  let comments := match start? with
    | some start => s.pending.foldl (·.addLeading start ·) s.comments
    | none =>
      if s.lastHi = 0 then s.pending.foldl (·.addLeading 0 ·) s.comments
      else s.pending.foldl (·.addTrailing s.lastHi ·) s.comments
  { s with comments := comments, pending := [] }

/-- The next token, errors included; `none` at the end of the text. -/
def next (s : Scanner) : Option Token × Scanner :=
  let found (tok : Tok) (start : Nat) (s : Scanner) : Option Token × Scanner :=
    let s := s.settleComments (some start)
    (some ⟨tok, ⟨start, s.pos⟩, s.lineBreak⟩,
      { s with
        last := some tok
        lastHi := s.pos
        lastLineBreak := s.lineBreak
        enclosure := s.enclosure.after s.lineBreak s.lastLineBreak s.last tok })
  match (Scan.next s.pos).run s with
  | (.ok (some (tok, start)), s) => found tok start s
  | (.ok none, s) => (none, s.settleComments none)
  | (.error r, s) => found (.error r) r.span.lo s

end Scanner

end Unbundled.Script
