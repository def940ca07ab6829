import Unbundled.Script.Parser.Pattern

/-!
Functions, object literals and classes.
-/
namespace Unbundled.Script.Parser

/-- The surroundings of a function's body. -/
def bodyOf (isAsync isGenerator isArrow : Bool) (s : Surroundings) : Surroundings :=
  { s with
    inFunction := true
    inAsync := isAsync
    inGenerator := isGenerator
    inParameters := false
    inClassField := s.inClassField && isArrow
    inPlainFunction := s.inPlainFunction || !isArrow
    inStaticBlock := false
    breakAllowed := false
    continueAllowed := false
    labels := [] }

/-- The body of an arrow function: a block or an expression. -/
def arrowBody (parse : Grammar) (isAsync : Bool) (params : List Node) : Parser Node :=
  within (bodyOf isAsync false true) do
    let body ← if ← is .lbrace then parse .block else parse .assignment
    checkDirectives params body
    return body

def functionBody (parse : Grammar) (isAsync isGenerator : Bool) (params : List Node) :
    Parser Node :=
  within (fun s => { bodyOf isAsync isGenerator false s with includeIn := true }) do
    let body ← parse .block
    checkDirectives params body
    return body

/-- The surroundings of a function's parameters. -/
def parametersOf (isAsync isGenerator : Bool) (s : Surroundings) : Surroundings :=
  { s with
    inFunction := false
    inParameters := true
    inClassField := false
    inAsync := isAsync
    inGenerator := isGenerator }

/-- Parameters in parentheses and a body; `check` looks at the parameters. -/
def functionTail (parse : Grammar) (lo : Nat) (isAsync isGenerator : Bool)
    (check : List Node → Parser Unit) : Parser Node := do
  expect .lparen
  let params ← within (parametersOf isAsync isGenerator) (parameters parse false)
  check params
  expect .rparen
  let body ← functionBody parse isAsync isGenerator params
  return .function (← spanFrom lo) isAsync isGenerator params body

def anyParameters : List Node → Parser Unit := fun _ => return

def noParameters (key : Span) (params : List Node) : Parser Unit := do
  unless params.isEmpty do noteAt key .getterParameter

def oneParameter (key : Span) (params : List Node) : Parser Unit := do
  unless params.length = 1 do noteAt key .setterParameter
  if let .rest span _ :: _ := params then noteAt span .setterRest

/-- From the word `function` on: `*`, a name and the rest. -/
def functionFrom (parse : Grammar) (lo : Nat) (isAsync isExpr nameRequired : Bool) :
    Parser (Option Node × Node) := do
  expectWord .functionW
  let isGenerator ← eatOp .star
  let own := fun (s : Surroundings) =>
    let s := { s with inClassField := false }
    if isExpr then { s with inAsync := isAsync, inGenerator := isGenerator } else s
  let id ← within own (if nameRequired then some <$> bindingIdentifier false
    else do
      if ← atVariable then return some (← bindingIdentifier false)
      return none)
  let function ← within ({ · with superAllowed := false })
    (functionTail parse lo isAsync isGenerator anyParameters)
  return (id, function)

/-- A function declaration; without a name only where it is exported by default. -/
def functionDeclaration (parse : Grammar) : Parser Node := do
  let lo ← currentLo
  let isAsync ← eatWord .asyncW
  let (id, function) ← functionFrom parse lo isAsync false true
  return .functionDecl function.span (id.getD (.invalid function.span)) function

def functionExpression (parse : Grammar) : Parser Node := do
  let lo ← currentLo
  let isAsync ← eatWord .asyncW
  let (id, function) ← functionFrom parse lo isAsync true false
  return .functionExpr function.span id function

/-- Whether `async function` begins here, on one line. -/
def startsAsyncFunction : Parser Bool := do
  if !(← isWord .asyncW) then return false
  if !(← aheadIsWord .functionW) then return false
  return !(← lineBreakBeforeAhead)

def methodTail (parse : Grammar) (lo : Nat) (isAsync isGenerator : Bool)
    (check : List Node → Parser Unit) : Parser Node :=
  within ({ · with superAllowed := true }) (functionTail parse lo isAsync isGenerator check)

/-- One property of an object literal. -/
def objectProperty (parse : Grammar) : Parser Node := do
  let lo ← currentLo
  if ← eat .ellipsis then
    let arg ← withIn (parse .assignment)
    return .spread ⟨lo, arg.hi⟩ arg
  if ← eatOp .star then
    let key ← propertyKey parse
    let function ← methodTail parse lo false true anyParameters
    return .method (← spanFrom lo) key function
  let key ← propertyKey parse
  if ← eat .colon then
    let value ← withIn (parse .assignment)
    return .property ⟨lo, value.hi⟩ key value
  if ← is .lparen then
    let function ← methodTail parse lo false false anyParameters
    return .method (← spanFrom lo) key function
  match key with
  | .name span text =>
    if ← eat .question then noteAt (← prevSpan) .optionalShorthand
    if (← is .comma) || (← is .rbrace) || (← isAssign) then
      if ← eatAssign then
        let value ← withIn (parse .assignment)
        return .shorthandDefault (← spanFrom lo) (.binding span text) value
      return .shorthand span text
    match text with
    | "get" =>
      let key ← propertyKey parse
      match ← methodTail parse lo false false (noParameters key.span) with
      | .function _ _ _ _ body => return .getter (← spanFrom lo) key body
      | n => return n
    | "set" =>
      let key ← propertyKey parse
      match ← methodTail parse lo false false (oneParameter key.span) with
      | .function _ _ _ (param :: _) body => return .setter (← spanFrom lo) key param body
      | n => return n
    | "async" =>
      let isGenerator ← eatOp .star
      let key ← propertyKey parse
      let function ← methodTail parse lo true isGenerator anyParameters
      return .method (← spanFrom lo) key function
    | _ => unexpected "... , *,  (, [, :, , ?, = or an identifier"
  | _ => unexpected "identifier"

def objectLiteral (parse : Grammar) : Parser Node := do
  let lo ← currentLo
  bump
  let (properties, comma) ← loop (fun (acc, comma) => do
    if ← eat .rbrace then return .inr (acc.reverse, comma)
    let property ← objectProperty parse
    if ← is .rbrace then return .inl (property :: acc, none)
    expect .comma
    let comma ← prevSpan
    let isLast ← is .rbrace
    return .inl (property :: acc, if isLast then some comma else none)) ([], none)
  if let some comma := comma then
    modify fun s => { s with trailingCommas := (lo, comma) :: s.trailingCommas }
  return .object (← spanFrom lo) properties

/-- The key of a class member. -/
def memberKey (parse : Grammar) : Parser Node := do
  if ← is .hash then
    match ← privateName with
    | .privateName span "constructor" =>
      noteAt span .privateConstructor
      return .privateName span "constructor"
    | n => return n
  propertyKey parse

def isConstructorKey : Node → Bool
  | .name _ text | .str _ text _ => text == "constructor"
  | _ => false

/-- Whether the rest of a field follows; `;` counts as written or, with `asi`, as implied. -/
def startsField (asi : Bool) : Parser Bool := do
  if (← isAssign) || (← is .rbrace) then return true
  if asi then isSemi else is .semi

def fieldTail (parse : Grammar) (lo : Nat) (isStatic : Bool) (key : Node) : Parser Node := do
  if isConstructorKey key then fail key.span .constructorField
  let value ←
    if ← eatAssign then
      some <$> within ({ · with includeIn := true, inClassField := true }) (parse .assignment)
    else pure none
  unless ← eatSemi do noteAt (← currentSpan) .tokenMissing
  return .field (← spanFrom lo) isStatic key value

def classMethodTail (parse : Grammar) (lo : Nat) (kind : MethodKind) (isStatic : Bool) (key : Node)
    (isAsync isGenerator : Bool) (check : List Node → Parser Unit) : Parser Node := do
  let function ← methodTail parse lo isAsync isGenerator check
  return .classMethod (← spanFrom lo) kind isStatic key function

/-- The statements of a class that run when it is made. Jumps out of them are not refused. -/
def staticBlock (parse : Grammar) (lo : Nat) : Parser Node := do
  let body ← within ({ · with inStaticBlock := true, inClassField := true }) (parse .block)
  return .staticBlock (← spanFrom lo) body

/-- A constructor from its parameters on. The parameters belong to what surrounds the class. -/
def constructorTail (parse : Grammar) (lo : Nat) (key : Node) : Parser Node := do
  expect .lparen
  let params ← parameters parse true
  expect .rparen
  let body ← functionBody parse false false params
  return .classConstructor (← spanFrom lo) key params body

/-- A member after the word `static`, if that is written. -/
def memberFrom (parse : Grammar) (lo : Nat) (static? : Option Span) : Parser Node := do
  let isStatic := static?.isSome
  if isStatic && (← is .lbrace) then return ← staticBlock parse lo
  if ← both (isWord .staticW) (aheadIs .lbrace) then
    if let some span := static? then noteAt span .misplacedModifier
    bump
    return ← staticBlock parse lo
  if ← eatOp .star then
    let key ← memberKey parse
    if isConstructorKey key then noteAt (← spanFrom lo) .generatorConstructor
    return ← classMethodTail parse lo .method isStatic key false true anyParameters
  let key ← memberKey parse
  if ← is .lparen then
    if isConstructorKey key then
      let constructor ← constructorTail parse lo key
      if let some span := static? then noteAt span .staticConstructor
      return constructor
    return ← classMethodTail parse lo .method isStatic key false false anyParameters
  let text := match key with
    | .name _ text => text
    | _ => ""
  let starOnNextLine := (← lineBreakBefore) && (← isOp .star)
  let isAccessor :=
    (text == "get" || text == "set") && !(← startsField false) && !starOnNextLine
  if !isAccessor && (← startsField true) then return ← fieldTail parse lo isStatic key
  if text == "async" && !(← lineBreakBefore) then
    let isGenerator ← eatOp .star
    let key ← memberKey parse
    if isConstructorKey key then fail key.span .asyncConstructor
    return ← classMethodTail parse lo .method isStatic key true isGenerator anyParameters
  if isAccessor then
    let own ← memberKey parse
    if isConstructorKey own then noteAt key.span .accessorConstructor
    if text == "get" then
      return ← classMethodTail parse lo .getter isStatic own false false (noParameters key.span)
    return ← classMethodTail parse lo .setter isStatic own false false (oneParameter key.span)
  unexpected "* for generator, private key, identifier or async"

def classMember (parse : Grammar) : Parser Node := do
  let lo ← currentLo
  if ← eatWord .staticW then
    let span ← prevSpan
    if ← is .lparen then
      return ← classMethodTail parse lo .method false (.name span "static") false false
        anyParameters
    if (← startsField false) && !(← is .lbrace) then
      return ← fieldTail parse lo false (.name span "static")
    memberFrom parse lo (some span)
  else memberFrom parse lo none

def isConstructor : Node → Bool
  | .classConstructor .. => true
  | _ => false

def classMembers (parse : Grammar) : Parser (List Node) :=
  loop (fun acc => do
    if (← atEnd) || (← is .rbrace) then return .inr acc.reverse
    if ← eat .semi then return .inl (.emptyStmt (← prevSpan) :: acc)
    let m ← within ({ · with inClass := true, superAllowed := true }) (classMember parse)
    if isConstructor m && acc.any isConstructor then noteAt m.span .severalConstructors
    return .inl (m :: acc)) []

/-- A class; `parent` parses what stands after `extends`. -/
def classTail (parse : Grammar) (parent : Parser Node) (nameRequired : Bool) :
    Parser (Option Node × Option Node × List Node) := do
  expectWord .classW
  let id ←
    if nameRequired then some <$> bindingIdentifier true else optionalBindingIdentifier
  let superClass ←
    if ← eatWord .extendsW then some <$> parent else pure none
  if ← eatWord .extendsW then
    noteAt (← prevSpan) .severalParents
    discard parent
  expect .lbrace
  let members ← classMembers parse
  if ← atEnd then
    let f ← found
    noteAt (← currentSpan) (.expected "\x7d" f)
  else expect .rbrace
  return (id, superClass, members)

end Unbundled.Script.Parser
