import Unbundled.Script.Parser.Name

/-!
Patterns. Where a pattern must stand it is parsed as one; where it turns out late that one stood,
the expression parsed in its place is turned into a pattern.
-/
namespace Unbundled.Script.Parser

/-- What a pattern is for: a parameter or an assignment, as a whole or a part of it. -/
inductive PatternRole where
  | parameter
  | parameterPart
  | target
  | targetPart
  deriving DecidableEq

def PatternRole.part : PatternRole → PatternRole
  | parameter | parameterPart => .parameterPart
  | target | targetPart => .targetPart

/-- Expressions that a value can be assigned to without taking it apart. -/
def isSimpleTarget : Node → Bool
  | .ident _ text => !isEvalOrArguments text
  | .paren _ e => isSimpleTarget e
  | .member _ (.member s o p) _ => isSimpleTarget (.member s o p)
  | .member _ (.optionalMember ..) _ | .member _ (.optionalCall ..) _ => false
  | .member .. => true
  | _ => false

/-- Notes an expression that cannot be assigned to. -/
def checkTarget (n : Node) : Parser Unit := do
  unless isSimpleTarget n do noteAt n.span .notSimpleTarget

/-- Expressions that are looked at as targets inside a pattern; others are no targets at all. -/
def isTargetForm : Node → Bool
  | .ident .. | .member .. | .call .. | .newExpr .. | .str .. | .number .. | .regex ..
  | .functionExpr .. | .classExpr .. | .paren .. | .template .. => true
  | .word _ text => text == "null" || text == "true" || text == "false"
  | _ => false

def trailingComma? (lo : Nat) : Parser (Option Span) :=
  return ((← get).trailingCommas.find? (·.1 == lo)).map (·.2)

def isHole : Node → Bool
  | .hole => true
  | _ => false

mutual

/-- The pattern that the expression spells. -/
def toPattern (role : PatternRole) : Node → Parser Node
  | .invalid span => return .invalid span
  | .ident span text => do
    if role = .target then checkTarget (.ident span text)
    if role = .targetPart ∧ isEvalOrArguments text then noteAt span .notSimpleAssign
    return .binding span text
  | .object span properties => do
    let comma ← trailingComma? span.lo
    return .objectPattern span (← toPropertyPatterns role comma properties)
  | .array span elements => do
    let comma ← trailingComma? span.lo
    return .arrayPattern span (← toElementPatterns role comma elements)
  | .assign span op target value => do
    if role = .target then
      checkTarget (.assign span op target value)
      return .assign span op target value
    if op = "=" then
      let target ← match target with
        | .arrayPattern .. | .objectPattern .. => pure target
        | _ => toPattern role.part target
      return .defaulted span target value
    noteAt span .invalidPattern
    return .invalid span
  | n => do
    match role with
    | .target =>
      checkTarget n
      return n
    | .targetPart =>
      unless isTargetForm n do
        noteAt n.span .invalidPattern
        return .invalid n.span
      unless isSimpleTarget n do noteAt n.span .notSimpleAssign
      return n
    | _ =>
      noteAt n.span .invalidPattern
      return .invalid n.span

/-- The patterns of the properties of an object literal; a rest property comes last. -/
def toPropertyPatterns (role : PatternRole) (comma : Option Span) : List Node → Parser (List Node)
  | [] => return []
  | .shorthand span text :: rest => do
    return .shorthandPattern span (.binding span text) none
      :: (← toPropertyPatterns role comma rest)
  | .property span key value :: rest => do
    let value ← toPattern role.part value
    return .propertyPattern span key value :: (← toPropertyPatterns role comma rest)
  | .shorthandDefault span key value :: rest => do
    return .shorthandPattern span key (some value) :: (← toPropertyPatterns role comma rest)
  | .spread span arg :: rest => do
    if !rest.isEmpty then noteAt span .restNotLast
    else if let some comma := comma then noteAt comma .commaAfterRest
    let arg ← match role.part, arg with
      | .parameterPart, .ident s text => pure (.binding s text)
      | .parameterPart, _ => do
        noteAt span .restNotName
        pure (.invalid span)
      | part, arg => toPattern part arg
    if let .defaulted .. := arg then noteAt span .restWithDefault
    return .rest span arg :: (← toPropertyPatterns role comma rest)
  | n :: _ => fail n.span .invalidPattern

/-- The patterns of the elements of an array literal, without the holes at its end. -/
def toElementPatterns (role : PatternRole) (comma : Option Span) : List Node → Parser (List Node)
  | [] => return []
  | .hole :: rest => do
    if rest.all isHole then return []
    return .hole :: (← toElementPatterns role comma rest)
  | .spread span arg :: rest => do
    if !rest.isEmpty then
      noteAt span .restNotLast
      toElementPatterns role comma rest
    else
      if let .assign .. := arg then noteAt span .restWithDefault
      if let some comma := comma then noteAt comma .commaAfterRest
      return [.rest arg.span (← toPattern role.part arg)]
  | n :: rest => do
    let n ← toPattern role.part n
    return n :: (← toElementPatterns role comma rest)

end

/-- The target of an assignment with `=`. -/
def assignTarget (n : Node) : Parser Node := do
  match ← toPattern .target n with
  | .binding span text => return .ident span text
  | n =>
    match n with
    | .arrayPattern .. | .objectPattern .. | .member .. | .optionalMember .. | .optionalCall ..
    | .paren .. | .invalid .. => return n
    | _ => fail n.span .invalidAssignTarget

/-- The target of an assignment that also reads it. -/
def compoundTarget (n : Node) : Parser Node := do
  unless isSimpleTarget n do noteAt n.span .notSimpleAssign
  match n with
  | .ident .. | .member .. | .optionalMember .. | .optionalCall .. | .paren .. | .invalid .. =>
    return n
  | _ => fail n.span .invalidAssignTarget

/-- The patterns that the items between the parentheses of an arrow function spell. -/
def toParameterPatterns (comma : Option Span) : List Node → Parser (List Node)
  | [] => return []
  | [.spread span arg] => do
    if let .assign .. := arg then noteAt span .restWithDefault
    if let some comma := comma then noteAt comma .commaAfterRest
    return [.rest arg.span (← toPattern .parameter arg)]
  | .spread span _ :: rest => do
    noteAt span .restParameterNotLast
    toParameterPatterns comma rest
  | n :: rest => do
    let n ← toPattern .parameter n
    return n :: (← toParameterPatterns comma rest)

/-- The parameters of an arrow function. -/
def toParameters (comma : Option Span) (items : List Node) : Parser (List Node) := do
  let params ← toParameterPatterns comma items
  for (span, text) in Node.bindingsList params do
    if isEvalOrArguments text then noteAt span .evalOrArguments
  return params

/-- Whether the parameters are names only. -/
def areSimple (params : List Node) : Bool := params.all fun
  | .binding .. => true
  | _ => false

/-- The directive for strict code among the strings that a body begins with. -/
def strictDirective? : List Node → Option Span
  | .exprStmt span (.str _ _ raw) :: rest =>
    if raw == some "'use strict'" || raw == some "\"use strict\"" then some span
    else strictDirective? rest
  | _ => none

/-- A body cannot ask for strict code when its parameters are more than names. -/
def checkDirectives (params : List Node) (body : Node) : Parser Unit := do
  if let .block _ stmts := body then
    if let some span := strictDirective? stmts then
      unless areSimple params do noteAt span .lateStrictMode

/-- A pattern with an optional default value. -/
def bindingElement (parse : Grammar) : Parser Node := do
  let lo ← currentLo
  let target ← parse (.bindingTarget false)
  if ← eatAssign then
    let value ← withIn (parse .assignment)
    return .defaulted (← spanFrom lo) target value
  return target

def isRest : Node → Bool
  | .rest .. => true
  | _ => false

/-- A pattern in brackets; holes at its end are dropped. -/
def arrayPattern (parse : Grammar) : Parser Node := do
  let lo ← currentLo
  bump
  let elements ← loop (fun (acc : List Node) => do
    if (← atEnd) || (← is .rbracket) then return .inr (acc.dropWhile isHole).reverse
    if ← eat .comma then return .inl (.hole :: acc)
    if let some rest := acc.find? isRest then noteAt rest.span .restNotLast
    let lo ← currentLo
    let element ←
      if ← eat .ellipsis then do
        let target ← parse (.bindingTarget false)
        pure (Node.rest (← spanFrom lo) target)
      else bindingElement parse
    unless ← is .rbracket do
      expect .comma
      if ← both (pure (isRest element)) (is .rbracket) then
        noteAt (← prevSpan) .commaAfterRest
    return .inl (element :: acc)) []
  expect .rbracket
  return .arrayPattern (← spanFrom lo) elements

def propertyPattern (parse : Grammar) : Parser Node := do
  let lo ← currentLo
  if ← eat .ellipsis then
    let target ← parse (.bindingTarget false)
    return .rest (← spanFrom lo) target
  let key ← propertyKey parse
  if ← eat .colon then
    let target ← bindingElement parse
    return .propertyPattern ⟨lo, target.hi⟩ key target
  match key with
  | .name span text =>
    if ← eatAssign then
      let value ← withIn (parse .assignment)
      return .shorthandPattern (← spanFrom lo) (.binding span text) (some value)
    return .shorthandPattern (← spanFrom lo) (.binding span text) none
  | _ => unexpected "an identifier"

/-- A rest property stands last, binds a name, and no comma follows it. -/
def checkRestProperty (comma : Option Span) : List Node → Parser Unit
  | [] => return
  | [.rest _ (.binding ..)] => do
    if let some comma := comma then noteAt comma .commaAfterRest
  | [.rest span _] => fail span .restNotName
  | n :: rest => do
    if isRest n then noteAt n.span .restNotLast
    checkRestProperty comma rest

def objectPattern (parse : Grammar) : Parser Node := do
  let lo ← currentLo
  bump
  let (properties, comma) ← loop (fun (acc, comma) => do
    if ← eat .rbrace then return .inr (acc.reverse, comma)
    let property ← propertyPattern parse
    if ← is .rbrace then return .inl (property :: acc, comma)
    expect .comma
    let last ← prevSpan
    let comma := if ← is .rbrace then some last else comma
    return .inl (property :: acc, comma)) ([], none)
  let span ← spanFrom lo
  checkRestProperty comma properties
  return .objectPattern span properties

/-- A name or a pattern that is bound here. -/
def bindingTarget (parse : Grammar) (refuseLet : Bool) : Parser Node := do
  match (← required).tok with
  | .word .. => bindingIdentifier refuseLet
  | .punct .lbracket => arrayPattern parse
  | .punct .lbrace => objectPattern parse
  | _ => unexpected "yield, an identifier, [ or \x7b"

/-- The parameters of a function, up to the closing parenthesis. A rest parameter of a
constructor is not even read with a default value. -/
def parameters (parse : Grammar) (ofConstructor : Bool) : Parser (List Node) := do
  loop (fun (acc : List Node × Option Span) => do
    let (acc, restSpan) := acc
    if (← atEnd) || (← is .rparen) then return .inr acc.reverse
    if let some span := restSpan then noteAt span .restParameterNotLast
    let lo ← currentLo
    let isRest ← eat .ellipsis
    let param ←
      if isRest then do
        let target ← parse (.bindingTarget false)
        if ← both (pure !ofConstructor) eatAssign then
          discard (parse .assignment)
          noteAt target.span .restWithDefault
        pure (Node.rest (← spanFrom lo) target)
      else bindingElement parse
    unless ← is .rparen do
      expect .comma
      if isRest && (← is .rparen) then noteAt (← prevSpan) .commaAfterRest
    return .inl (param :: acc, if isRest then some param.span else none)) ([], none)

end Unbundled.Script.Parser
