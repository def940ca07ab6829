import Unbundled.Script.Token

/-!
What encloses a place between two tokens: the brackets that are open, and the functions and
classes in expressions whose bodies are still to come. A template goes on behind a closing brace
just when the brace leaves its stretch innermost.
-/
namespace Unbundled.Script

inductive Context where
  /-- Braces around statements. -/
  | block
  /-- Other braces. -/
  | braces
  /-- From `$` and a brace on, in a template. -/
  | substitution
  /-- Parentheses behind `if`, `while`, `with` and `for`. -/
  | head (isFor : Bool)
  | parens
  | template
  /-- From the word `function` on, in an expression. -/
  | functionExpr
  /-- From the word `class` on, in an expression. -/
  | classExpr
  deriving DecidableEq, Repr

def Context.isExpression : Context → Bool
  | block | head _ => false
  | _ => true

structure Enclosure where
  /-- The innermost comes first; the script itself counts as a block. -/
  contexts : List Context := [.block]
  /-- Whether an expression can begin here. -/
  expressionAllowed : Bool := true

namespace Enclosure

def current? (e : Enclosure) : Option Context := e.contexts.head?

def inTemplate (e : Enclosure) : Bool := e.current? == some .template

/-- Whether a brace behind the token `previous` opens a block. -/
def opensBlock (e : Enclosure) (lineBreak : Bool) : Option Tok → Bool
  | none => true
  | some previous =>
    if previous.isPunct .colon && e.current? == some .block then true
    else if previous.isPunct .colon && e.current? == some .braces then false
    else if previous.isWord .returnW || previous.isWord .yieldW then lineBreak
    else if previous.isWord .elseW || previous.isPunct .semi || previous.isPunct .rparen
      || previous.isPunct .arrow || previous.isOp .lt || previous.isOp .gt then true
    else if previous.isPunct .lbrace then e.current? == some .block
    else !e.expressionAllowed

/-- Behind a closing parenthesis or brace. The script itself stays open. -/
def close (e : Enclosure) : Enclosure :=
  match e.contexts with
  | .block :: .functionExpr :: rest | .block :: .classExpr :: rest => ⟨rest, false⟩
  | .substitution :: .template :: rest => ⟨.template :: rest, false⟩
  | .substitution :: c :: rest => ⟨c :: rest, true⟩
  | out :: c :: rest => ⟨c :: rest, !out.isExpression⟩
  | contexts => ⟨contexts, true⟩

def push (e : Enclosure) (c : Context) (expressionAllowed : Bool) : Enclosure :=
  ⟨c :: e.contexts, expressionAllowed⟩

/-- Behind the word `function` or `class`, which begins an expression only where one can begin
and no statement can. -/
def pushDefinition (e : Enclosure) (lineBreak : Bool) (previous : Option Tok) (c : Context) :
    Enclosure :=
  if e.expressionAllowed && !e.opensBlock lineBreak previous then e.push c false
  else { e with expressionAllowed := false }

/-- Behind a name. -/
def afterName (e : Enclosure) (previousLineBreak : Bool) (previous : Option Tok) : Enclosure :=
  let declares := previous.any fun t => t.isWord .letW || t.isWord .constW || t.isWord .varW
  { e with expressionAllowed := declares && previousLineBreak }

def afterWord (e : Enclosure) (lineBreak previousLineBreak : Bool) (previous : Option Tok)
    (w : Word) : Enclosure :=
  if w.isKeyword && previous.any (·.isPunct .dot) then { e with expressionAllowed := false }
  else
    match w with
    | .functionW => e.pushDefinition lineBreak previous .functionExpr
    | .classW => e.pushDefinition lineBreak previous .classExpr
    | .ofW =>
      if e.current? == some (.head true) then
        { e with expressionAllowed := !previous.any Tok.opensExpression }
      else e.afterName previousLineBreak previous
    | w =>
      if (Tok.word (some w) "").isName then e.afterName previousLineBreak previous
      else { e with expressionAllowed := w.opensExpression }

def headOf : Option Tok → Context
  | some (.word (some .forW) _) => .head true
  | some (.word (some w) _) =>
    if w == .ifW || w == .withW || w == .whileW then .head false else .parens
  | _ => .parens

/-- Behind the token `tok`, which follows `previous`; the flags say whether a line break stands
before either. -/
def after (e : Enclosure) (lineBreak previousLineBreak : Bool) (previous : Option Tok)
    (tok : Tok) : Enclosure :=
  match tok with
  | .word (some w) _ => e.afterWord lineBreak previousLineBreak previous w
  | .word none _ => e.afterName previousLineBreak previous
  | .punct .rparen | .punct .rbrace => e.close
  | .punct .lbrace => e.push (if e.opensBlock lineBreak previous then .block else .braces) true
  | .punct .dollarBrace => e.push .substitution true
  | .punct .lparen => e.push (headOf previous) true
  | .punct .plusPlus | .punct .minusMinus => e
  | .punct .backquote =>
    match e.contexts with
    | .template :: rest => ⟨rest, false⟩
    | contexts => ⟨.template :: contexts, false⟩
  | .punct .colon =>
    match e.contexts with
    | .functionExpr :: rest | .classExpr :: rest => ⟨rest, true⟩
    | contexts => ⟨contexts, true⟩
  | tok => { e with expressionAllowed := tok.opensExpression }

end Enclosure

end Unbundled.Script
