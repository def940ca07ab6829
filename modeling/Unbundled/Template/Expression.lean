import Unbundled.Script.Scope
import Unbundled.Script.Source
import Unbundled.Text.Split

/-!
Expressions of templates. A render function is given the component as `_ctx`: what an expression
uses and nobody binds is a property of it. The prefix is put into the author's own text.
-/
namespace Unbundled.Template

/-- Names that mean the same everywhere. -/
def globals : List String :=
  ["Infinity", "undefined", "NaN", "isFinite", "isNaN", "parseFloat", "parseInt", "decodeURI",
   "decodeURIComponent", "encodeURI", "encodeURIComponent", "Math", "Number", "Date", "Array",
   "Object", "Boolean", "String", "RegExp", "Map", "Set", "JSON", "Intl", "BigInt", "console",
   "Error", "Symbol"]

/-- Text to be put into a source, before the octet at `offset`. -/
structure Insertion where
  offset : Nat
  text : String
  deriving DecidableEq, Repr

/-- How a free name becomes a property of the component. `shift` octets before the source are not
part of it. -/
def insertion (shift : Nat) (u : Script.FreeUse) : Insertion :=
  if u.isShorthand then ⟨u.span.hi - shift, ": _ctx." ++ u.name⟩
  else ⟨u.span.lo - shift, "_ctx."⟩

/-- What is put before the octet at `offset`: of several texts the last one comes first. -/
def insertedAt (edits : List Insertion) (offset : Nat) : List Char :=
  (edits.filter (·.offset == offset)).reverse.flatMap (·.text.toList)

/-- The characters with the insertions made; those that fall inside a character are left out. -/
def splice (edits : List Insertion) (offset : Nat) : List Char → List Char
  | [] => insertedAt edits offset
  | c :: cs => insertedAt edits offset ++ c :: splice edits (offset + c.utf8Size) cs

/-- A single expression; `scope` lists the names that the template binds around it. -/
def prefixedExpression (scope : List String) (source : String) :
    Except Script.Diagnostic String := do
  let e ← Script.parseExpression source
  let edits := (e.freeUses (globals ++ scope)).map (insertion 1)
  return String.ofList (splice edits 0 source.toList)

/-- A list of statements. -/
def prefixedStatements (scope : List String) (source : String) :
    Except Script.Diagnostic String := do
  let parsed ← Script.parseModule "handler" source
  let edits := (parsed.module.freeUses (globals ++ scope)).map (insertion 0)
  return String.ofList (splice edits 0 source.toList)

/-- An expression without the parentheses around it. -/
def withoutParens : Script.Node → Script.Node
  | .paren _ e => withoutParens e
  | e => e

/-- The names that the alias of a loop binds, such as `item` or `(item, index)`. -/
def aliasNames (text : String) : Except Script.Diagnostic (List String) := do
  let text := Text.trim text
  let params := if text.startsWith "(" then text else "(" ++ text ++ ")"
  match withoutParens (← Script.parseExpression (params ++ " => 0")) with
  | .arrow _ _ params _ => return Script.Node.boundNames params
  | _ => throw (.parseError ("invalid v-for alias: " ++ text))

end Unbundled.Template
