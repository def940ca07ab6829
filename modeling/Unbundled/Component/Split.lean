import Unbundled.Artifact
import Unbundled.Component.Binding
import Unbundled.Component.Block
import Unbundled.Imports
import Unbundled.Template.Compile

/-!
A component file is served as two modules under one path: its script, which imports the render
function and attaches it, and with `type=template` the render function itself.
-/
namespace Unbundled.Component

/-- The value of `type` that asks for the render module. -/
def renderType : String := "template"

inductive Part where
  | script
  | render
  deriving DecidableEq, Repr

def Part.ofType (type? : Option String) : Part :=
  if type? = some renderType then .render else .script

/-- The render module of a component without a template. -/
def emptyRenderModule : String := "export function render() \x7b\n  return null\n\x7d\n"

/-- The lines that attach the render function to the script. A script without a template may bring
its own render function. -/
def attachment (path : String) (hasTemplate : Bool) : String :=
  "import \x7b render as __render \x7d from "
    ++ Text.Quoted.encode (path ++ "?type=" ++ renderType) ++ "\n"
    ++ (if hasTemplate then "" else "if (!" ++ scriptBinding ++ ".render) ")
    ++ scriptBinding ++ ".render = __render\n"
    ++ "export default " ++ scriptBinding ++ "\n"

def scriptModule (path : String) (parts : Parts) : Except Failure String := do
  let bound ← match parts.script? with
    | some b => boundScript path b.content
    | none => .ok (withBinding "" "\x7b\x7d")
  let code ← redirectImports path bound
  let code := if code.endsWith "\n" then code else code ++ "\n"
  return code ++ attachment path parts.template?.isSome

def renderModule (path : String) (parts : Parts) : Except Failure String :=
  match parts.template? with
  | none => .ok emptyRenderModule
  | some b =>
    match Template.compile b.content with
    | .error d => .error (.parse path ("template: " ++ d.display))
    | .ok code => redirectImports path code

/-- One of the two modules of the component that is served under `path`. -/
def split (path source : String) (type? : Option String) : Except Failure String :=
  match Parts.ofText source with
  | .error e => .error (.parse path e.text)
  | .ok parts =>
    match Part.ofType type? with
    | .render => renderModule path parts
    | .script => scriptModule path parts

end Unbundled.Component
