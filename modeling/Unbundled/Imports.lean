import Unbundled.Failure
import Unbundled.Script.Printer
import Unbundled.Script.Source
import Unbundled.Script.Sources
import Unbundled.Specifier

/-!
Scripts as they are served: bare specifiers give way to the paths of their packages.
-/
namespace Unbundled

/-- The script with paths in the place of bare specifiers, and how many of them there were. -/
def redirectModule (m : Script.Module) : Script.Module × Nat :=
  (m.mapSources Specifier.redirected?, m.sources.countP Specifier.isBare)

/-- The text of a script whose bare specifiers have been replaced. A script without any is given
back as it is; any other is printed anew. `file` names the script in errors. -/
def redirectImports (file code : String) : Except Failure String :=
  match Script.parseModule file code with
  | .error d => .error (.parse file d.display)
  | .ok parsed =>
    let (redirected, count) := redirectModule parsed.module
    if count = 0 then .ok code else .ok (redirected.text parsed.comments)

end Unbundled
