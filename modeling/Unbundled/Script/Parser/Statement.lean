import Unbundled.Script.Parser.Expression

/-!
Statements and declarations, without imports and exports.
-/
namespace Unbundled.Script.Parser

def followsLet : Option Tok → Bool
  | some (.punct .lbrace) | some (.punct .lbracket) => true
  | some (.word none _) => true
  | some (.word (some w) _) =>
    w == .yieldW || w == .awaitW || w == .letW
      || !(w.isKeyword || w == .nullW || w == .trueW || w == .falseW)
  | _ => false

/-- One declarator of a declaration of the given kind. -/
def declarator (parse : Grammar) (inLoop : Bool) (kind : String) : Parser Node := do
  let lo ← currentLo
  let target ← parse (.bindingTarget (kind != "var"))
  if inLoop && ((← isWord .inW) || (← isWord .ofW)) then
    return .declarator (← spanFrom lo) target none
  if ← eatAssign then
    let value ← parse .assignment
    return .declarator (← spanFrom lo) target (some value)
  let span ← spanFrom lo
  if kind = "const" then noteAt span .constWithoutValue
  else
    match target with
    | .binding .. => pure ()
    | _ => fail span .patternWithoutValue
  return .declarator (← spanFrom lo) target none

/-- `var`, `let` or `const` and its declarators. Where the declaration does not end, that is noted
and the rest of the line is passed over. -/
def variableDeclaration (parse : Grammar) (inLoop : Bool) : Parser Node := do
  let lo ← currentLo
  let kind := match ← currentTok? with
    | some (.word _ text) => text
    | _ => ""
  bump
  let kindSpan ← prevSpan
  let includeIn := kind != "var" || !inLoop
  let declarators ← loop (fun acc => do
    if (← atEnd) || (← is .semi) then
      let span ← prevSpan
      noteAt (if span == kindSpan then ⟨span.hi, span.hi⟩ else span) .trailingDeclaratorComma
      return .inr acc.reverse
    let d ← within (fun s => if includeIn then { s with includeIn := true } else s)
      (declarator parse inLoop kind)
    if ← eat .comma then return .inl (d :: acc)
    return .inr (d :: acc).reverse) []
  if !inLoop then
    unless ← eatSemi do
      noteAt (← currentSpan) .tokenMissing
      try discard (parse .expression) catch _ => pure ()
      loop (fun (_ : Unit) => do
        if ← eatSemi then return .inr ()
        bump
        match ← currentTok? with
        | some (.error _) => return .inr ()
        | _ => return .inl ()) ()
  return .varDecl (← spanFrom lo) kind declarators

def classDeclaration (parse : Grammar) : Parser Node := do
  let lo ← currentLo
  let (id, superClass, members) ← classTail parse (leftHandSide parse) true
  let span ← spanFrom lo
  return .classDecl span (id.getD (.invalid span)) superClass members

def condition (parse : Grammar) : Parser Node := do
  expect .lparen
  let test ← withIn (parse .expression)
  expect .rparen
  return test

def body (parse : Grammar) : Parser Node := parse (.statement false false)

def loopBody (parse : Grammar) : Parser Node :=
  within ({ · with breakAllowed := true, continueAllowed := true }) (body parse)

def ifStatement (parse : Grammar) : Parser Node := do
  let lo ← currentLo
  bump
  let word ← prevSpan
  expect .lparen
  let test ← labelled (return word) "Tried to parse the condition for an if statement"
    (withIn (parse .expression))
  expect .rparen
  let yes ← body parse
  if ← eatWord .elseW then
    let no ← body parse
    return .ifStmt (← spanFrom lo) test yes (some no)
  return .ifStmt (← spanFrom lo) test yes none

def returnStatement (parse : Grammar) : Parser Node := do
  let lo ← currentLo
  bump
  let result : Except Report Node ←
    try
      let arg ← if ← isSemi then pure none else some <$> withIn (parse .expression)
      expectSemi
      pure (.ok (.returnStmt (← spanFrom lo) arg))
    catch r => pure (.error r)
  unless (← read).inFunction do noteAt (← spanFrom lo) .returnOutside
  match result with
  | .ok n => return n
  | .error r => throw r

def switchCase (parse : Grammar) (previous : Option Span) : Parser (Node × Option Span) := do
  let lo ← currentLo
  let isCase ← isWord .caseW
  bump
  let (test, previous) ←
    if isCase then
      let test ← withIn (parse .expression)
      pure (some test, previous)
    else
      if let some span := previous then failHere (.severalDefaults span)
      pure (none, some (← spanFrom lo))
  expect .colon
  let stmts ← loop (fun acc => do
    if (← atEnd) || (← isWord .caseW) || (← isWord .defaultW) || (← is .rbrace) then
      return .inr acc.reverse
    return .inl ((← parse (.statement true false)) :: acc)) []
  return (.switchCase (← spanFrom lo) test stmts, previous)

def switchStatement (parse : Grammar) : Parser Node := do
  let lo ← currentLo
  bump
  let discriminant ← condition parse
  expect .lbrace
  let cases ← within ({ · with breakAllowed := true }) (loop (fun (acc, previous) => do
    if (← isWord .caseW) || (← isWord .defaultW) then
      let (c, previous) ← switchCase parse previous
      return .inl (c :: acc, previous)
    return .inr acc.reverse) ([], none))
  expect .rbrace
  return .switchStmt (← spanFrom lo) discriminant cases

def throwStatement (parse : Grammar) : Parser Node := do
  let lo ← currentLo
  bump
  if ← lineBreakBefore then failHere .lineBreakInThrow
  let arg ← withIn (parse .expression)
  expectSemi
  return .throwStmt (← spanFrom lo) arg

def catchClause (parse : Grammar) : Parser (Option Node) := do
  let lo ← currentLo
  if !(← eatWord .catchW) then return none
  let param ←
    if ← eat .lparen then
      let p ← parse (.bindingTarget false)
      expect .rparen
      pure (some p)
    else pure none
  let block ← parse .block
  return some (.catchClause (← spanFrom lo) param block)

def finallyBlock (parse : Grammar) : Parser (Option Node) := do
  if ← eatWord .finallyW then return some (← parse .block)
  return none

def tryStatement (parse : Grammar) : Parser Node := do
  let lo ← currentLo
  bump
  let block ← parse .block
  let catchLo ← currentLo
  let handler ← catchClause parse
  let finalizer ← finallyBlock parse
  if handler.isNone && finalizer.isNone then noteAt ⟨catchLo, catchLo⟩ .tokenMissing
  return .tryStmt (← spanFrom lo) block handler finalizer

/-- A `catch` or `finally` without its `try`: noted and passed over. -/
def strayHandler (parse : Grammar) : Parser Node := do
  let span ← currentSpan
  noteAt span .tokenMissing
  try
    discard (catchClause parse)
    discard (finallyBlock parse)
  catch _ => pure ()
  return .exprStmt span (.invalid span)

def withStatement (parse : Grammar) : Parser Node := do
  let lo ← currentLo
  noteAt (← currentSpan) .withStatement
  bump
  discard (condition parse)
  discard (within ({ · with inFunction := true }) (body parse))
  return .emptyStmt (← spanFrom lo)

def whileStatement (parse : Grammar) : Parser Node := do
  let lo ← currentLo
  bump
  let test ← condition parse
  let body ← loopBody parse
  return .whileStmt (← spanFrom lo) test body

def doStatement (parse : Grammar) : Parser Node := do
  let lo ← currentLo
  bump
  let body ← loopBody parse
  expectWord .whileW
  let test ← condition parse
  discard eatSemi
  return .doWhileStmt (← spanFrom lo) test body

/-- The head of a loop, in parentheses. -/
inductive LoopHead where
  | plain (init test step : Option Node)
  | each (isOf : Bool) (head right : Node)

def eachHead (parse : Grammar) (head : Node) : Parser LoopHead := do
  let isOf ← isWord .ofW
  bump
  let right ← if isOf then withIn (parse .assignment) else withIn (parse .expression)
  return .each isOf head right

def plainHead (parse : Grammar) (init : Option Node) : Parser LoopHead := do
  let test ←
    if ← eat .semi then pure none
    else
      let test ← withIn (parse .expression)
      expect .semi
      pure (some test)
  let step ← if ← is .rparen then pure none else some <$> withIn (parse .expression)
  return .plain init test step

def startsDeclaration : Parser Bool := do
  if (← isWord .constW) || (← isWord .varW) then return true
  both (isWord .letW) (return followsLet (← aheadTok?))

def loopHead (parse : Grammar) : Parser LoopHead := do
  if ← startsDeclaration then
    let decl ← variableDeclaration parse true
    if (← isWord .ofW) || (← isWord .inW) then
      match decl with
      | .varDecl _ _ [.declarator _ target init] =>
        if init.isSome then noteAt target.span .loopVariableValue
      | .varDecl _ _ (_ :: others) =>
        for d in others do
          if let .declarator _ target _ := d then noteAt target.span .severalLoopVariables
      | _ => pure ()
      return ← eachHead parse decl
    expect .semi
    return ← plainHead parse (some decl)
  if ← eat .semi then return ← plainHead parse none
  let init ← within ({ · with includeIn := false }) (parse .expression)
  if (← isWord .ofW) || (← isWord .inW) then
    let head ← toPattern .target init
    return ← eachHead parse head
  expect .semi
  plainHead parse (some init)

def forStatement (parse : Grammar) : Parser Node := do
  let lo ← currentLo
  bump
  let awaitLo ← currentLo
  let isAwait ← eatWord .awaitW
  let awaitSpan ← spanFrom awaitLo
  expect .lparen
  let head ← within ({ · with loopHead := true, awaitedLoopHead := isAwait }) (loopHead parse)
  expect .rparen
  let body ← loopBody parse
  let span ← spanFrom lo
  match head with
  | .plain init test step =>
    if isAwait then fail awaitSpan .awaitedLoop
    return .forStmt span init test step body
  | .each true head right => return .forOfStmt span isAwait head right body
  | .each false head right =>
    if isAwait then fail awaitSpan .awaitedLoop
    return .forInStmt span head right body

/-- `break` or `continue`, with a label if one follows on the line. -/
def jumpStatement (isBreak : Bool) : Parser Node := do
  let lo ← currentLo
  bump
  let label ←
    if ← eatSemi then pure none
    else
      let l ← identifier
      expectSemi
      pure (some l)
  let span ← spanFrom lo
  let s ← read
  let unknown := label.any fun l => !s.labels.contains l.2
  if isBreak then
    if unknown then noteAt span .unknownBreakLabel
    else if !s.breakAllowed then noteAt span .breakOutside
  else
    if !s.continueAllowed then noteAt span .continueOutside
    else if unknown then noteAt span .unknownContinueLabel
  let label := label.map fun (span, text) => Node.name span text
  return if isBreak then .breakStmt span label else .continueStmt span label

def labeledStatement (parse : Grammar) (span : Span) (text : String) : Parser Node := do
  let repeated := (← read).labels.contains text
  let body ← within (fun s => { s with breakAllowed := true, labels := text :: s.labels }) do
    if ← isWord .functionW then
      let f ← functionDeclaration parse
      noteAt f.span .labeledFunction
      return f
    body parse
  if repeated then noteAt span (.repeatedLabel text)
  return .labeledStmt (← spanFrom span.lo) (.name span text) body

/-- An expression as a statement. -/
def expressionStatement (parse : Grammar) : Parser Node := do
  let lo ← currentLo
  let e ← withIn (parse .expression)
  match e, ← is .colon with
  | .ident span text, true =>
    bump
    labeledStatement parse span text
  | _, _ =>
    if ← eatSemi then return .exprStmt (← spanFrom lo) e
    match ← readableTok? with
    | some (.op _) =>
      noteAt (← currentSpan) .tokenMissing
      let e ← parse (.binaryRest e 0)
      return .exprStmt (← spanFrom lo) e
    | _ => failHere (.semicolonAfterExpression e.span)

/-- An expression that needs no semicolon behind it. -/
def looseExpression (lo : Nat) (p : Parser Node) : Parser Node := do
  let e ← p
  discard eatSemi
  return .exprStmt (← spanFrom lo) e

/-- The declaration that begins with `using`, before a name on its line. It is read and noted as
not enabled. -/
def usingDeclaration? (parse : Grammar) (lo : Nat) : Parser (Option Node) := do
  discard readable?
  if ← lineBreakBeforeAhead then return none
  if !isVariable (← aheadTok?) then return none
  bump
  let declarators ← loop (fun acc => do
    if (← is .semi) || (← readable?).isNone then
      noteAt (← prevSpan) .trailingDeclaratorComma
      return .inr acc.reverse
    let d ← declarator parse false "var"
    if ← eat .comma then return .inl (d :: acc)
    return .inr (d :: acc).reverse) []
  let span ← spanFrom lo
  noteAt span .usingDisabled
  return some (.varDecl span "using" declarators)

/-- A statement that begins with `await using`. -/
def awaitUsing (parse : Grammar) (lo : Nat) : Parser Node := do
  bump
  if let some decl ← usingDeclaration? parse lo then return decl
  looseExpression lo do
    let e ← awaitRest parse lo
    withIn (parse (.binaryRest e 0))

/-- A statement; declarations stand in lists of statements only. -/
def statement (parse : Grammar) (declarations topLevel : Bool) : Parser Node := do
  let lo ← currentLo
  match (← required).tok with
  | .word (some w) _ =>
    match w with
    | .importW | .exportW =>
      if ← both (isWord .importW) (either (aheadIs .lparen) (aheadIs .dot)) then
        looseExpression lo (parse .expression)
      else failHere .importExportNested
    | .breakW => jumpStatement true
    | .continueW => jumpStatement false
    | .debuggerW =>
      bump
      expectSemi
      return .debuggerStmt (← spanFrom lo)
    | .doW => doStatement parse
    | .forW => forStatement parse
    | .functionW =>
      unless declarations do noteAt (← currentSpan) .declarationNotAllowed
      functionDeclaration parse
    | .classW =>
      unless declarations do noteAt (← currentSpan) .declarationNotAllowed
      classDeclaration parse
    | .ifW => ifStatement parse
    | .returnW => returnStatement parse
    | .switchW => switchStatement parse
    | .throwW => throwStatement parse
    | .catchW | .finallyW => strayHandler parse
    | .tryW => tryStatement parse
    | .withW => withStatement parse
    | .whileW => whileStatement parse
    | .varW => variableDeclaration parse false
    | .constW =>
      if declarations then variableDeclaration parse false else expressionStatement parse
    | .awaitW =>
      if ← both (return declarations || topLevel) (aheadIsWord .usingW) then awaitUsing parse lo
      else expressionStatement parse
    | .usingW =>
      if declarations then
        if let some decl ← usingDeclaration? parse lo then return decl
      expressionStatement parse
    | .letW =>
      if ← both (pure declarations) (return followsLet (← aheadTok?)) then
        variableDeclaration parse false
      else expressionStatement parse
    | .asyncW =>
      if ← startsAsyncFunction then functionDeclaration parse else expressionStatement parse
    | _ => expressionStatement parse
  | .punct .lbrace => parse .block
  | .punct .semi =>
    bump
    return .emptyStmt (← spanFrom lo)
  | _ => expressionStatement parse

/-- Statements in braces. The end of the text before the closing brace is noted. -/
def block (parse : Grammar) : Parser Node := do
  let lo ← currentLo
  expect .lbrace
  let stmts ← loop (fun acc => do
    if ← atEnd then
      let f ← found
      noteAt (← currentSpan) (.expected "\x7d" f)
      return .inr acc.reverse
    if ← eat .rbrace then return .inr acc.reverse
    return .inl ((← parse (.statement true false)) :: acc)) []
  return .block (← spanFrom lo) stmts

/-- One level of the grammar. -/
def goal (parse : Grammar) : Grammar
  | .expression => sequenceExpression parse
  | .assignment => assignmentExpression parse
  | .unary => unaryExpression parse
  | .binaryRest left precedence => binaryRest parse left precedence
  | .member isNew => memberExpression parse (leftHandSide parse) isNew
  | .bindingTarget refuseLet => bindingTarget parse refuseLet
  | .statement declarations topLevel => statement parse declarations topLevel
  | .block => block parse

/-- The grammar, followed down to `depth` levels. -/
def grammar : Nat → Grammar
  | 0 => fun _ => failHere .tooDeep
  | depth + 1 => goal (grammar depth)

end Unbundled.Script.Parser
