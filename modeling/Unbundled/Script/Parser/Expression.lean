import Unbundled.Script.Outline
import Unbundled.Script.Parser.Function

/-!
Expressions, from sequences down to literals. Parentheses and the names before `=>` are read as
expressions and become parameters when the arrow is seen.
-/
namespace Unbundled.Script.Parser

def isArrow : Node → Bool
  | .arrow .. => true
  | _ => false

def isOptional : Node → Bool
  | .optionalMember .. | .optionalCall .. => true
  | _ => false

/-- Where a chain with `?.` goes a step that may be left out. -/
def isOptionalStep : Node → Bool
  | .optionalMember _ optional .. | .optionalCall _ optional .. => optional
  | _ => false

def spreadOr (parse : Grammar) : Parser Node := do
  let lo ← currentLo
  if ← eat .ellipsis then
    let dots ← spanFrom lo
    let arg ← labelled (return dots) "An expression should follow '...'"
      (withIn (parse .assignment))
    return .spread ⟨lo, arg.hi⟩ arg
  parse .assignment

/-- Arguments in parentheses. -/
def arguments (parse : Grammar) (isImport : Bool) : Parser (List Node) := do
  let lo ← currentLo
  expect .lparen
  let (args, comma) ← commaList .rparen (withIn (spreadOr parse))
  if isImport && comma.isSome then fail (← spanFrom lo) .importTrailingComma
  expect .rparen
  return args

/-- A stretch of a template; a malformed escape is allowed behind a tag only. -/
def quasi (isTagged : Bool) : Parser Quasi := do
  let lo ← currentLo
  match (← required).tok with
  | .template raw cooked fault =>
    bump
    if let some r := fault then
      unless isTagged do throw r
    return ⟨← spanFrom lo, raw, if fault.isSome then none else some cooked⟩
  | _ => unexpected "template token"

def templateLiteral (parse : Grammar) (isTagged : Bool) : Parser Node := do
  let lo ← currentLo
  bump
  let first ← quasi isTagged
  let (quasis, exprs) ← loop (fun (quasis, exprs) => do
    if ← is .backquote then return .inr (quasis.reverse, exprs.reverse)
    expect .dollarBrace
    let e ← withIn (parse .expression)
    expect .rbrace
    let q ← quasi isTagged
    return .inl (q :: quasis, e :: exprs)) ([first], [])
  expect .backquote
  return .template (← spanFrom lo) quasis exprs

def arrayLiteral (parse : Grammar) : Parser Node := do
  let lo ← currentLo
  bump
  let elements ← loop (fun acc => do
    if (← atEnd) || (← is .rbracket) then return .inr acc.reverse
    if ← eat .comma then return .inl (.hole :: acc)
    let element ← withIn (spreadOr parse)
    unless ← is .rbracket do
      expect .comma
      let comma ← prevSpan
      if ← is .rbracket then
        modify fun s => { s with trailingCommas := (lo, comma) :: s.trailingCommas }
    return .inl (element :: acc)) []
  expect .rbracket
  return .array (← spanFrom lo) elements

/-- A slash where an expression must begin: the text from it on is read again. -/
def regexLiteral : Parser Node := do
  let lo ← currentLo
  let mark := if (← isOp .slash) then ['/'] else ['/', '=']
  bump
  modify fun s =>
    { s with scanner := { s.scanner with regexFrom := some (mark ++ s.scanner.rest, lo) } }
  match ← currentTok? with
  | some (.regex body flags) =>
    modify fun s => { s with scanner := { s.scanner with regexFrom := none } }
    bump
    let span ← spanFrom lo
    let known := ['d', 'g', 'i', 'm', 's', 'u', 'v', 'y']
    if flags.toList.any fun c => !known.contains c then noteAt span .unknownRegexFlags
    if let some c := known.find? fun c => 1 < flags.toList.count c then
      noteAt span (.repeatedRegexFlag c)
    return .regex span body flags
  | _ => failHere .expressionExpected

/-- The properties of an object literal that only a pattern can have. -/
def misplacedDefaults : Node → List Span
  | .object _ properties => properties.filterMap fun
    | .shorthandDefault span _ _ => some span
    | _ => none
  | _ => []

def isName : Node → Bool
  | .ident .. => true
  | _ => false

/-- The items between parentheses, and the comma behind the last one. An arrow behind an item is
passed over; if the first item is a name, the function that all the items so far begin is one
more item. -/
def parenItems (parse : Grammar) : Parser (List Node × Option Span) := do
  expect .lparen
  let items ← loop (fun (items, comma) => do
    if (← atEnd) || (← is .rparen) then return .inr (items, comma)
    let lo ← currentLo
    let item ← withIn (spreadOr parse)
    let items := items ++ [item]
    let items ←
      if ← both (eat .arrow) (return items.head?.any isName) then
        let params ← toParameters none items
        let body ← arrowBody parse false params
        pure (items ++ [.arrow (← spanFrom lo) false params body])
      else pure items
    let comma ←
      if ← is .rparen then pure none
      else do
        expect .comma
        let comma ← prevSpan
        pure (if ← is .rparen then some comma else none)
    return .inl (items, comma)) ([], none)
  expect .rparen
  return items

/-- What a block body and a binary operator after it amount to: both are noted. -/
def afterArrow (parse : Grammar) (arrow : Node) : Parser Node := do
  if let .arrow _ _ _ (.block ..) := arrow then
    if let some ⟨.op _, _, _⟩ ← readable? then
      noteAt (← currentSpan) .tokenMissing
      let e ← parse (.binaryRest arrow 0)
      unless ← is .rparen do noteAt (← currentSpan) .tokenMissing
      return e
  return arrow

/-- Parentheses: the head of an arrow function, the arguments of a call of `async`, or an
expression. -/
def parenOrArrow (parse : Grammar) (canBeArrow : Bool) (async? : Option Span) : Parser Node := do
  let lo ← match async? with
    | some span => pure span.lo
    | none => currentLo
  let (items, comma) ← parenItems parse
  if ← is .arrow then
    if ← lineBreakBefore then fail (← spanFrom lo) .lineBreakBeforeArrow
    unless canBeArrow do fail (← spanFrom lo) .arrowNotAllowed
    expect .arrow
    let params ← toParameters comma items
    let body ← arrowBody parse async?.isSome params
    return ← afterArrow parse (.arrow (← spanFrom lo) async?.isSome params body)
  for item in items do
    for span in misplacedDefaults item do noteAt span .assignProperty
  match async? with
  | some span => return .call (← spanFrom lo) (.ident span "async") items
  | none =>
    for item in items do
      if let .spread _ arg := item then fail arg.span .spreadInParens
    match items with
    | [] => fail (← spanFrom lo) .emptyParens
    | [e] => return .paren (← spanFrom lo) e
    | first :: _ =>
      let span := ⟨first.lo, (items.getLast?.getD first).hi⟩
      return .paren (← spanFrom lo) (.sequence span items)

/-- A variable, or a function whose only parameter has no parentheses. -/
def variableOrArrow (parse : Grammar) (canBeArrow : Bool) : Parser Node := do
  let lo ← currentLo
  let (span, text) ← identifier
  let here := canBeArrow && !(← lineBreakBefore)
  if ← both (return here && text == "async") atVariable then
    let ofHead := both (return (← read).loopHead) (isWord .ofW)
    if ← both ofHead (return !(← aheadIs .arrow)) then
      unless (← read).awaitedLoopHead do noteAt (← prevSpan) .asyncLoopHead
      return .ident span text
    let param ← bindingIdentifier false
    expect .arrow
    let body ← arrowBody parse true [param]
    return .arrow (← spanFrom lo) true [param] body
  if ← both (pure here) (eat .arrow) then
    if isEvalOrArguments text then noteAt span .evalOrArguments
    let params := [Node.binding span text]
    let body ← arrowBody parse false params
    return .arrow (← spanFrom lo) false params body
  return .ident span text

def classExpression (parse : Grammar) (parent : Parser Node) : Parser Node := do
  let lo ← currentLo
  let (id, superClass, members) ← classTail parse parent false
  return .classExpr (← spanFrom lo) id superClass members

/-- Literals, names, and what brackets, braces and keywords begin. -/
def primary (parse : Grammar) (parent : Parser Node) : Parser Node := do
  let lo ← currentLo
  let canBeArrow := (← get).arrowStart == some lo
  let plainWord := fun (text : String) => do
    bump
    return Node.word (← spanFrom lo) text
  match ← currentTok? with
  | some (.word (some .thisW) _) => plainWord "this"
  | some (.word (some .nullW) _) => plainWord "null"
  | some (.word (some .trueW) _) => plainWord "true"
  | some (.word (some .falseW) _) => plainWord "false"
  | some (.word (some .functionW) _) => functionExpression parse
  | some (.word (some .classW) _) => classExpression parse parent
  | some (.word (some .asyncW) _) =>
    if ← startsAsyncFunction then functionExpression parse
    else if ← both (pure canBeArrow)
        (both (aheadIs .lparen) (return !(← lineBreakBeforeAhead))) then
      bump
      parenOrArrow parse canBeArrow (some (← prevSpan))
    else variableOrArrow parse canBeArrow
  | some (.punct .lbracket) => arrayLiteral parse
  | some (.punct .lbrace) => objectLiteral parse
  | some (.punct .lparen) => parenOrArrow parse canBeArrow none
  | some (.punct .backquote) => templateLiteral parse false
  | some (.str value raw) =>
    bump
    return .str (← spanFrom lo) value (some raw)
  | some (.num raw) | some (.bigint raw) =>
    bump
    return .number (← spanFrom lo) raw
  | some (.op .slash) | some (.assign .divA) => regexLiteral
  | some (.punct .hash) =>
    bump
    let (_, text) ← identifierName
    return .privateName (← spanFrom lo) text
  | some (.word (some .letW) _) => variableOrArrow parse canBeArrow
  | _ =>
    if ← atVariable then variableOrArrow parse canBeArrow
    else failHere .expressionExpected

def isImport : Node → Bool
  | .importCallee .. => true
  | _ => false

def isSuper : Node → Bool
  | .word _ "super" => true
  | _ => false

/-- `super` stands only where methods are, and before a property that has a name of its own or
arguments. -/
def checkSuper (object property : Node) (optional noCall : Bool) : Parser Unit := do
  if isSuper object then
    unless (← read).superAllowed do failHere .superMisplaced
    if optional then failHere (if noCall then .superCallMisplaced else .superMisplaced)
    if let .privateName .. := property then failHere .superCallMisplaced

/-- What the property `property` of the word `import` amounts to. Names besides `meta` are passed
over: arguments follow them. -/
def importProperty (parse : Grammar) (object property : Node) : Parser Node := do
  let span ← spanFrom object.lo
  match property with
  | .name _ "meta" => return .metaProperty span "import.meta"
  | .name .. => return .call span object (← arguments parse true)
  | _ => unexpected "meta"

/-- A property, with what is behind the dot. -/
def dottedProperty : Parser Node := do
  if ← is .hash then privateName
  else
    let (span, text) ← identifierName
    return .name span text

/-- One access, call or tagged template behind `object`; `none` when there is no further one. -/
def subscript? (parse : Grammar) (noCall : Bool) (object : Node) : Parser (Option Node) := do
  let lo := object.lo
  discard readable?
  let optional ← do
    if ← both (is .question) (aheadIs .dot) then eat .question else pure false
  let chained := optional || isOptional object
  let dotThen := fun (p : Punct) =>
    both (pure optional) (both (is .dot) (both (aheadIs p) (eat .dot)))
  if ← either (is .lbracket) (dotThen .lbracket) then
    bump
    let bracketLo := (← prevSpan).lo
    let key ← withIn (parse .expression)
    expect .rbracket
    let property := Node.computed (← spanFrom bracketLo) key
    checkSuper object property optional noCall
    if chained then return some (.optionalMember (← spanFrom lo) optional object property)
    return some (.member (← spanFrom lo) object property)
  if ← either (dotThen .lparen) (both (pure !noCall) (is .lparen)) then
    let args ← arguments parse (isImport object)
    if chained then
      if isSuper object || isImport object then failHere .superCallOptional
      return some (.optionalCall (← spanFrom lo) optional object args)
    return some (.call (← spanFrom lo) object args)
  if ← eat .dot then
    let property ← dottedProperty
    if isImport object then return some (← importProperty parse object property)
    checkSuper object property optional noCall
    if chained then return some (.optionalMember (← spanFrom lo) optional object property)
    return some (.member (← spanFrom lo) object property)
  if isSuper object then
    failHere (if noCall then .superCallMisplaced else .superMisplaced)
  if isImport object then failHere .importMisplaced
  if ← is .backquote then
    let quasi ← templateLiteral parse true
    let span ← spanFrom lo
    if isOptional object then noteAt span .taggedOptional
    return some (.tagged span object quasi)
  return none

def subscripts (parse : Grammar) (noCall : Bool) (object : Node) : Parser Node :=
  loop (fun object => do
    match ← subscript? parse noCall object with
    | some object => return .inl object
    | none => return .inr object) object

/-- From the word `import` on, where an expression stands. -/
def importExpression (parse : Grammar) (noCall : Bool) : Parser Node := do
  let lo ← currentLo
  bump
  if ← eat .dot then
    let (_, text) ← identifierName
    if text = "meta" then
      return ← subscripts parse noCall (.metaProperty (← spanFrom lo) "import.meta")
    unless text = "source" do unexpected "meta"
    return ← subscripts parse noCall (.importCallee (← spanFrom lo) text)
  subscripts parse noCall (.importCallee (← spanFrom lo) "")

def superExpression (parse : Grammar) (noCall : Bool) : Parser Node := do
  let lo ← currentLo
  bump
  subscripts parse noCall (.word (← spanFrom lo) "super")

/-- What can stand before the arguments of a call. -/
def memberExpression (parse : Grammar) (parent : Parser Node) (isNew : Bool) : Parser Node := do
  let lo ← currentLo
  if ← eatWord .newW then
    if ← eat .dot then
      unless ← eatWord .targetW do unexpected "target"
      let span ← spanFrom lo
      let s ← read
      unless s.inPlainFunction || s.inParameters || s.inClass do noteAt span .newTargetMisplaced
      return ← subscripts parse true (.metaProperty span "new.target")
    let callee ← parse (.member isNew)
    if isArrow callee then return callee
    if isNew then
      match callee with
      | .member _ object _ => if isOptionalStep object then fail object.span .optionalNew
      | _ => if isOptionalStep callee then fail callee.span .optionalNew
    if !isNew || (← is .lparen) then
      let args ← arguments parse false
      return ← subscripts parse true (.newExpr (← spanFrom lo) callee true args)
    return .newExpr (← spanFrom lo) callee false []
  if ← isWord .superW then return ← superExpression parse true
  if ← isWord .importW then return ← importExpression parse true
  let object ← primary parse parent
  if isArrow object then return object
  subscripts parse true object

def leftHandSide (parse : Grammar) : Parser Node := do
  let lo ← currentLo
  if ← isWord .superW then return ← superExpression parse false
  if ← isWord .importW then return ← importExpression parse false
  let callee ← parse (.member true)
  if isArrow callee then return callee
  match callee with
  | .newExpr _ _ false _ => return callee
  | _ =>
    if ← is .lparen then
      let args ← arguments parse false
      let span ← spanFrom lo
      if isOptional callee then subscripts parse false (.optionalCall span false callee args)
      else subscripts parse false (.call span callee args)
    else return callee

/-- What is behind the word `await`, which begins at `lo`. Without an operand the word is a
name. -/
def awaitRest (parse : Grammar) (lo : Nat) : Parser Node := do
  let span ← spanFrom lo
  if ← isOp .star then failHere .awaitStar
  let s ← read
  let noOperand := either (is .rparen) (either (is .rbracket) (either isSemi (is .comma)))
  if ← both (return !s.inAsync) noOperand then
    noteAt span .awaitAsName
    return .ident span "await"
  if s.inFunction && !s.inAsync then noteAt span .awaitOutside
  if s.inParameters && !s.inFunction then noteAt span .awaitInParameters
  let arg ← parse .unary
  return .awaitExpr (← spanFrom lo) arg

def awaitExpression (parse : Grammar) : Parser Node := do
  let lo ← currentLo
  bump
  awaitRest parse lo

def updateOp? : Option Tok → Option String
  | some (.punct .plusPlus) => some "++"
  | some (.punct .minusMinus) => some "--"
  | _ => none

def unaryOp? : Option Tok → Option String
  | some (.punct .bang) => some "!"
  | some (.punct .tilde) => some "~"
  | some (.op .plus) => some "+"
  | some (.op .minus) => some "-"
  | some (.word (some .deleteW) _) => some "delete"
  | some (.word (some .voidW) _) => some "void"
  | some (.word (some .typeofW) _) => some "typeof"
  | _ => none

/-- An operand with its unary operators. An error in the operand of an operator is noted. -/
def unaryExpression (parse : Grammar) : Parser Node := do
  let lo ← currentLo
  let tok ← currentTok?
  if let some op := updateOp? tok then
    bump
    let arg ← parse .unary
    checkTarget arg
    return .update ⟨lo, arg.hi⟩ op true arg
  if let some op := unaryOp? tok then
    bump
    let argLo := (← currentLo) - 1
    let arg ←
      try parse .unary
      catch r =>
        note r
        pure (.invalid ⟨argLo, argLo⟩)
    if let ("delete", .ident span _) := (op, arg) then noteAt span .deleteName
    return .unary ⟨lo, arg.hi⟩ op arg
  if ← isWord .awaitW then return ← awaitExpression parse
  let e ← leftHandSide parse
  if isArrow e then return e
  if ← lineBreakBefore then return e
  match updateOp? (← currentTok?) with
  | some op =>
    checkTarget e
    bump
    return .update (← spanFrom e.lo) op false e
  | none => return e

/-- The operator at the current place and its precedence. -/
def binaryOp? : Parser (Option (String × Nat)) := do
  match ← readableTok? with
  | some (.op o) => return some (o.text, o.precedence)
  | some (.word (some .instanceofW) _) => return some ("instanceof", 7)
  | some (.word (some .inW) _) => return if (← read).includeIn then some ("in", 7) else none
  | _ => return none

def isLogical : Node → Bool
  | .binary _ op _ _ => op == "&&" || op == "||"
  | _ => false

def isNullish : Node → Bool
  | .binary _ op _ _ => op == "??"
  | _ => false

/-- `??` is not mixed with `&&` and `||` without parentheses. -/
def checkMixed (op : String) (left right : Node) : Parser Unit := do
  let clash := if op = "??" then isLogical else fun n => isNullish n && (op == "&&" || op == "||")
  if clash left then noteAt left.span .mixedNullish
  if clash right then noteAt right.span .mixedNullish

def isUnary : Node → Bool
  | .unary .. | .awaitExpr .. => true
  | _ => false

/-- Operators behind `left` that bind tighter than `precedence`; `**` groups to the right. -/
def binaryRest (parse : Grammar) (left : Node) (precedence : Nat) : Parser Node :=
  loop (fun left => do
    match ← binaryOp? with
    | some (op, p) =>
      if p ≤ precedence then return .inr left
      bump
      if isUnary left && op == "**" then
        failHere (.unaryBeforePower left.outline.text left.span)
      let operand ← parse .unary
      let right ← parse (.binaryRest operand (if op == "**" then p - 1 else p))
      checkMixed op left right
      return .inl (.binary ⟨left.lo, right.hi⟩ op left right)
    | none => return .inr left) left

/-- Operands and binary operators. Where the first operand is in error and an operator follows,
the error gives way to that of the operator, which is noted. -/
def binaryExpression (parse : Grammar) : Parser Node := do
  let left ←
    try parse .unary
    catch r =>
      let recovered := do
        noteAt (← currentSpan) .expressionExpected
        return Node.invalid r.span
      match (← required).tok with
      | .op _ => recovered
      | .word (some .instanceofW) _ => recovered
      | .word (some .inW) _ => if (← read).includeIn then recovered else throw r
      | _ => throw r
  if isArrow left then return left
  parse (.binaryRest left 0)

def conditionalExpression (parse : Grammar) : Parser Node := do
  let lo ← currentLo
  let test ← binaryExpression parse
  if isArrow test then return test
  if ← eat .question then
    let yes ← withIn (parse .assignment)
    expect .colon
    let no ← parse .assignment
    return .conditional ⟨lo, no.hi⟩ test yes no
  return test

/-- Tokens that an expression can begin with. -/
def startsExpression : Option Tok → Bool
  | some (.word (some w) _) =>
    match w with
    | .awaitW | .functionW | .newW | .thisW | .superW | .classW | .importW | .yieldW | .typeofW
    | .voidW | .deleteW | .letW => true
    | w => !w.isKeyword
  | some (.word none _) | some (.str ..) | some (.num _) | some (.bigint _) => true
  | some (.regex ..) => true
  | some (.op .plus) | some (.op .minus) => true
  | some (.punct p) =>
    match p with
    | .lparen | .lbrace | .lbracket | .backquote | .bang | .tilde | .plusPlus | .minusMinus
    | .dollarBrace | .hash => true
    | _ => false
  | none => true
  | _ => false

def yieldExpression (parse : Grammar) : Parser Node := do
  let lo ← currentLo
  bump
  let s ← read
  if s.inParameters && !s.inFunction then fail (← prevSpan) .yieldInParameters
  let atSemi ← isSemi
  let tok := (← readable?).map (·.tok)
  let operand := match tok with
    | some (.op .star) | some (.op .slash) | some (.assign .divA) => true
    | tok => startsExpression tok
  if atSemi || !operand then return .yieldExpr (← spanFrom lo) false none
  let delegate ← eatOp .star
  let arg ← labelled (spanFrom lo) "Tried to parse an argument of yield" (parse .assignment)
  return .yieldExpr (← spanFrom lo) delegate (some arg)

def assignmentExpression (parse : Grammar) : Parser Node := do
  if (← read).inGenerator && (← isWord .yieldW) then return ← yieldExpression parse
  let first ← required
  let arrowStart := match first.tok with
    | .word w _ => if w.any fun w => w.isKeyword && w != .yieldW then none else some first.span.lo
    | .punct .lparen => some first.span.lo
    | _ => none
  modify fun s => { s with arrowStart := arrowStart }
  let lo := first.span.lo
  let e ← conditionalExpression parse
  match e with
  | .arrow .. | .conditional .. | .binary .. | .unary .. | .update .. => return e
  | _ =>
    match ← readableTok? with
    | some (.assign op) =>
      let target ← if op == .assign then assignTarget e else compoundTarget e
      bump
      let value ← parse .assignment
      return .assign (← spanFrom lo) op.text target value
    | _ => return e

def sequenceExpression (parse : Grammar) : Parser Node := do
  let first ← parse .assignment
  if !(← is .comma) then return first
  let exprs ← loop (fun acc => do
    if ← eat .comma then return .inl ((← parse .assignment) :: acc)
    return .inr acc.reverse) [first]
  return .sequence (← spanFrom first.lo) exprs

end Unbundled.Script.Parser
