import Unbundled.Script.Parser.Basic

/-!
Names: where any word may stand, where a variable is referred to, and where one is bound. A
module is strict code in which `await` is reserved.
-/
namespace Unbundled.Script.Parser

/-- Whether the token can stand for a variable; `static` can, and is noted. -/
def isVariable : Option Tok → Bool
  | some (.word w _) => !w.any fun w => w.isReserved && w != .staticW
  | _ => false

def atVariable : Parser Bool := return isVariable ((← readable?).map (·.tok))

def isEvalOrArguments (s : String) : Bool := s == "eval" || s == "arguments"

/-- Any word. -/
def identifierName : Parser (Span × String) := do
  let lo ← currentLo
  match (← required).tok with
  | .word _ text =>
    bump
    return (← spanFrom lo, text)
  | _ => failHere .identifierExpected

/-- A word that is not a keyword; words that only strict code reserves are noted. -/
def identifier : Parser (Span × String) := do
  let lo ← currentLo
  match (← required).tok with
  | .word w text =>
    bump
    let span ← spanFrom lo
    if text = "arguments" ∧ (← read).inClassField then noteAt span .argumentsInField
    if let some w := w then
      if w.isStrictReserved || w == .letW || w == .yieldW then noteAt span (.strictName text)
      if w == .awaitW then
        if (← read).inStaticBlock then fail span .identifierExpected
        fail span .awaitAsName
      if w == .nullW || w == .trueW || w == .falseW then fail span .identifierExpected
      if w.isKeyword && w != .letW && w != .yieldW then fail span .identifierExpected
    return (span, text)
  | _ => failHere .identifierExpected

/-- A name that is bound here. -/
def bindingIdentifier (refuseLet : Bool) : Parser Node := do
  if refuseLet && (← isWord .letW) then
    unexpected "let is reserved in const, let, class declaration"
  let (span, text) ← identifier
  if isEvalOrArguments text then noteAt span .evalOrArguments
  if text = "yield" ∧ (← read).inGenerator then noteAt span .identifierExpected
  return .binding span text

def optionalBindingIdentifier : Parser (Option Node) := do
  if ← atVariable then return some (← bindingIdentifier true)
  return none

/-- `#` and a word right behind it. -/
def privateName : Parser Node := do
  let lo ← currentLo
  bump
  let hashHi := (← prevSpan).hi
  if hashHi < (← currentLo) then fail (← spanFrom lo) .spaceAfterHash
  let (_, text) ← identifierName
  return .privateName (← spanFrom lo) text

/-- The key of a property. -/
def propertyKey (parse : Grammar) : Parser Node := do
  let lo ← currentLo
  match (← required).tok with
  | .str value raw =>
    bump
    return .str (← spanFrom lo) value (some raw)
  | .num raw | .bigint raw =>
    bump
    return .number (← spanFrom lo) raw
  | .word _ text =>
    bump
    return .name (← spanFrom lo) text
  | .punct .lbracket =>
    bump
    let key ← withIn (parse .assignment)
    expect .rbracket
    return .computed (← spanFrom lo) key
  | _ => unexpected "identifier, string literal, numeric literal or [ for the computed key"

end Unbundled.Script.Parser
