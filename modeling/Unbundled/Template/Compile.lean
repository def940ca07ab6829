import Unbundled.Template.Parser
import Unbundled.Template.Piece

/-!
Render modules. A module imports the helpers that its text refers to, resolves its components, and
returns one node.
-/
namespace Unbundled.Template

/-- What the render function returns for the roots of a template: their only node, or all of them
together. -/
def rootOf : List Render → Option Render
  | [] => none
  | [.text parts] => some (.vnode .fragment [] [.text parts])
  | [n] => some n
  | ns => some (.vnode .fragment [] ns)

/-- The components that a render function refers to, each once. -/
def rootComponents (root? : Option Render) : List String :=
  match root? with
  | none => []
  | some n => n.components.eraseDups

/-- The helpers that a render function refers to, each once, in the order of the import. -/
def rootHelpers (root? : Option Render) : List Helper :=
  match root? with
  | none => []
  | some n =>
    let resolving := if n.components.isEmpty then [] else [Helper.resolveComponent]
    Helper.all.filter (resolving ++ n.helpers).contains

def importText (helpers : List Helper) : String :=
  if helpers.isEmpty then ""
  else
    "import \x7b " ++ commaSeparated (helpers.map fun h => h.name ++ " as " ++ h.text)
      ++ " \x7d from \"vue\"\n\n"

def componentText (tag : String) : String :=
  "  const " ++ componentBinding tag ++ " = " ++ callText .resolveComponent [quoted tag] ++ "\n"

/-- The module that imports `helpers` and resolves the components `tags`. -/
def moduleWith (helpers : List Helper) (tags : List String) (root? : Option Render) : String :=
  importText helpers ++ "export function render(_ctx, _cache) \x7b\n"
    ++ String.join (tags.map componentText)
    ++ "  return " ++ (root?.map Render.exprText).getD "null" ++ "\n\x7d\n"

def moduleText (root? : Option Render) : String :=
  moduleWith (rootHelpers root?) (rootComponents root?) root?

/-- The render module of a template's roots. -/
def generate (roots : List Node) : Except Script.Diagnostic String := do
  return moduleText (rootOf (← Render.ofNodes roots))

/-- The render module of a template. -/
def compile (source : String) : Except Script.Diagnostic String := do
  generate (← parse source)

end Unbundled.Template
