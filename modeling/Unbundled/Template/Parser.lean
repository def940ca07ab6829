import Unbundled.Script.Diagnostic
import Unbundled.Template.Token
import Unbundled.Template.Whitespace

/-!
Trees from tokens. Every end tag has to name the element that was opened last; void elements and
those whose start tag ends in a slash are never open.
-/
namespace Unbundled.Template

/-- An element whose end tag has not come, with its children so far from the last one. -/
structure OpenElement where
  tag : String
  attributes : List Markup.Attribute
  earlier : List Node

/-- The open elements, innermost first, and the roots so far from the last one. -/
structure Builder where
  stack : List OpenElement := []
  roots : List Node := []

namespace Builder

def append (b : Builder) (n : Node) : Builder :=
  match b.stack with
  | [] => { b with roots := n :: b.roots }
  | e :: es => { b with stack := { e with earlier := n :: e.earlier } :: es }

def step (b : Builder) : Token → Except MarkupError Builder
  | .text content => .ok (b.append (.text content))
  | .interpolation source => .ok (b.append (.interpolation source))
  | .comment => .ok b
  | .startTag tag attributes isClosed =>
    if isClosed || voidElements.contains tag then .ok (b.append (.element tag attributes []))
    else .ok { b with stack := ⟨tag, attributes, []⟩ :: b.stack }
  | .endTag tag =>
    match b.stack with
    | [] => .error (.unexpectedEndTag tag)
    | e :: es =>
      if e.tag = tag then
        .ok ({ b with stack := es }.append (.element e.tag e.attributes e.earlier.reverse))
      else .error (.mismatchedEndTag tag e.tag)

def finish (b : Builder) : Except MarkupError (List Node) :=
  match b.stack with
  | [] => .ok b.roots.reverse
  | e :: _ => .error (.missingEndTag e.tag)

end Builder

/-- The trees of the tokens. An error among them comes before the one that ends them. -/
def build (ts : List Token) (scanError? : Option MarkupError) : Except MarkupError (List Node) := do
  let b ← ts.foldlM Builder.step {}
  match scanError? with
  | some e => throw e
  | none => b.finish

/-- The roots of a template, condensed. -/
def parse (source : String) : Except Script.Diagnostic (List Node) :=
  let (ts, scanError?) := tokens source.toList
  match build ts scanError? with
  | .ok roots => .ok (condense roots)
  | .error e => .error (.parseError e.text)

end Unbundled.Template
