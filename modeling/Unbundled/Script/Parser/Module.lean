import Unbundled.Script.Parser.Statement

/-!
Imports, exports and whole modules.
-/
namespace Unbundled.Script.Parser

/-- The text that names a module. -/
def sourceString : Parser Node := do
  let lo ← currentLo
  match (← required).tok with
  | .str value raw =>
    bump
    return .str (← spanFrom lo) value (some raw)
  | _ => unexpected "a string literal"

/-- A name by which a module exports something: any word, or a string. -/
def exportName : Parser Node := do
  let lo ← currentLo
  match (← required).tok with
  | .str value raw =>
    bump
    return .str (← spanFrom lo) value (some raw)
  | .word _ text =>
    bump
    return .name (← spanFrom lo) text
  | _ => unexpected "identifier or string"

/-- Items in braces, separated by commas, after the opening brace. -/
def braced (item : Parser Node) : Parser (List Node) := do
  let items ← loop (fun acc => do
    if ← is .rbrace then return .inr acc.reverse
    let i ← item
    unless ← is .rbrace do expect .comma
    return .inl (i :: acc)) []
  expect .rbrace
  return items

def importSpecifier : Parser Node := do
  let lo ← currentLo
  let imported ← exportName
  if ← eatWord .asW then
    let id ← bindingIdentifier false
    return .importNamed ⟨lo, id.hi⟩ id (some imported)
  match imported with
  | .str span value _ => fail span (.importBindingString value)
  | .name span text =>
    return .importNamed (← spanFrom lo) (.binding span text) none
  | n => return n

/-- Whether the word `text`, which was just read, is the phase of an import and not the name that
it binds: a star or a brace tells, or another name. -/
def readsPhase (text : String) : Parser Bool := do
  if text ≠ "source" ∧ text ≠ "defer" then return false
  if (← isOp .star) || (← is .lbrace) then return true
  if ← isWord .fromW then aheadIsWord .fromW else atVariable

/-- The phase of an import and the binding of the default export. -/
def importClause : Parser (String × Option Node) := do
  if !(← atVariable) then return ("", none)
  let id ← bindingIdentifier false
  let text := match id with
    | .binding _ text => text
    | _ => ""
  if !(← readsPhase text) then return ("", some id)
  if (← isOp .star) || (← is .lbrace) then return (text, none)
  return (text, some (← bindingIdentifier false))

/-- What stands between `import` and `from`. -/
def importSpecifiers : Parser (String × List Node) := do
  let (phase, id?) ← importClause
  let defaults := id?.toList.map fun id => Node.importDefault id.span id
  if id?.isSome then
    unless ← isWord .fromW do expect .comma
  let lo ← currentLo
  if ← eatOp .star then
    expectWord .asW
    let id ← bindingIdentifier false
    return (phase, defaults ++ [.importNamespace (← spanFrom lo) id])
  if ← eat .lbrace then return (phase, defaults ++ (← braced importSpecifier))
  return (phase, defaults)

def importDeclaration : Parser Node := do
  let lo ← currentLo
  bump
  if let some (.str ..) ← currentTok? then
    let source ← sourceString
    expectSemi
    return .importDecl (← spanFrom lo) "" [] source
  let (phase, specifiers) ← importSpecifiers
  expectWord .fromW
  let source ← sourceString
  expectSemi
  return .importDecl (← spanFrom lo) phase specifiers source

def exportSpecifier : Parser Node := do
  let lo ← currentLo
  let localName ← exportName
  let exported ← if ← eatWord .asW then some <$> exportName else pure none
  return .exportSpecifier (← spanFrom lo) localName exported

/-- `from`, the source and the end of the statement. -/
def fromClause : Parser Node := do
  expectWord .fromW
  let source ← sourceString
  expectSemi
  return source

/-- Words that cannot be exported as they are, in any code. -/
def isReservedEverywhere (w : Word) : Bool :=
  (w.isKeyword && w != .letW && w != .yieldW && w != .awaitW) || w == .nullW || w == .trueW
    || w == .falseW || w == .enumW || w == .packageW

/-- Names that an export without a source cannot refer to. -/
def noteExports (specifiers : List Node) : Parser Unit := do
  for s in specifiers do
    match s with
    | .exportSpecifier _ (.name span text) _ =>
      if (Word.ofText? text).any isReservedEverywhere then noteAt span (.reservedExport text)
    | .exportSpecifier _ (.str span _ _) _ => noteAt span .exportBindingString
    | _ => pure ()

def exportStar (lo : Nat) : Parser Node := do
  let starLo := (← prevSpan).lo
  unless ← eatWord .asW do
    let source ← fromClause
    return .exportAll (← spanFrom lo) source
  let exported ← exportName
  let namespaceSpan ← spanFrom starLo
  let source ← fromClause
  return .exportNamed (← spanFrom lo) [.exportNamespace namespaceSpan exported] (some source)

def exportDefault (parse : Grammar) (lo : Nat) : Parser Node := do
  let declLo ← currentLo
  if ← isWord .classW then
    let (id, superClass, members) ← classTail parse (leftHandSide parse) false
    let decl := Node.classExpr (← spanFrom declLo) id superClass members
    return .exportDefaultDecl (← spanFrom lo) decl
  if ← either startsAsyncFunction (isWord .functionW) then
    let isAsync ← eatWord .asyncW
    let (id, function) ← functionFrom parse declLo isAsync false false
    return .exportDefaultDecl (← spanFrom lo) (.functionExpr function.span id function)
  let e ← withIn (parse .assignment)
  expectSemi
  return .exportDefaultExpr (← spanFrom lo) e

def exportList (lo : Nat) : Parser Node := do
  expect .lbrace
  let specifiers ← braced exportSpecifier
  if ← isWord .fromW then
    let source ← fromClause
    return .exportNamed (← spanFrom lo) specifiers (some source)
  noteExports specifiers
  discard (eat .semi)
  return .exportNamed (← spanFrom lo) specifiers none

/-- What follows the word `export`. Before a declaration a star that no source follows is passed
over. -/
def exportDeclaration (parse : Grammar) : Parser Node := do
  let lo ← currentLo
  bump
  discard required
  let star ← eatOp .star
  if ← both (pure star) (either (isWord .fromW) (isWord .asW)) then return ← exportStar lo
  if ← eatWord .defaultW then return ← exportDefault parse lo
  let decl? ←
    if ← isWord .classW then some <$> classDeclaration parse
    else if ← either startsAsyncFunction (isWord .functionW) then
      some <$> functionDeclaration parse
    else if ← startsDeclaration then some <$> variableDeclaration parse false
    else pure none
  match decl? with
  | some decl => return .exportDecl (← spanFrom lo) decl
  | none => if star then fromClause else exportList lo

def moduleItem (parse : Grammar) : Parser Node := do
  if ← isWord .exportW then return ← exportDeclaration parse
  if ← isWord .importW then
    if !((← aheadIs .lparen) || (← aheadIs .dot)) then return ← importDeclaration
  parse (.statement true true)

def module (parse : Grammar) : Parser Module := do
  let lo ← currentLo
  let shebang ←
    match ← currentTok? with
    | some (.shebang text) =>
      bump
      pure (some text)
    | _ => pure none
  let body ← loop (fun acc => do
    if ← atEnd then return .inr acc.reverse
    return .inl ((← moduleItem parse) :: acc)) []
  return ⟨← spanFrom lo, shebang, body⟩

end Unbundled.Script.Parser
