import Unbundled.Files.Lookup

/-!
Where a project begins: the nearest directory, from the working directory upwards, that holds one
of the markers.
-/
namespace Unbundled.Project

/-- The entries that mark the root of a project. -/
def markers : List Path := [⟨"package.json"⟩, ⟨".git"⟩]

def isMarked (dir : Path) : Lookup Bool :=
  markers.anyM fun marker => Lookup.entryExists (dir.join marker)

/-- The first marked directory among `dir` and the `steps` directories above it. -/
def rootAbove? : Nat → Path → Lookup (Option Path)
  | steps, dir => do
    if ← isMarked dir then return some dir
    match steps, dir.parent? with
    | steps + 1, some parent => rootAbove? steps parent
    | _, _ => return none

/-- The root of the project that a directory belongs to. A path has fewer directories above it
than characters. -/
def root? (dir : Path) : Lookup (Option Path) := rootAbove? dir.text.length dir

end Unbundled.Project
