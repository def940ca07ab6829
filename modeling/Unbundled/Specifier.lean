import Unbundled.Artifact

/-!
Module specifiers. A browser resolves a specifier that is a path or a URL; a bare one names a
package and is given the path under which packages are served.
-/
namespace Unbundled.Specifier

def isLegal (spec : String) : Bool :=
  ["/", "./", "../"].any fun start => Text.startsWith start.toList spec.toList

def isUrl (spec : String) : Bool :=
  ["http://", "https://", "data:", "blob:"].any fun scheme =>
    Text.startsWith scheme.toList spec.toList

def isBare (spec : String) : Bool :=
  spec ≠ "" && !isLegal spec && !isUrl spec

/-- The path of a bare specifier; others have none and stay as they are. -/
def redirected? (spec : String) : Option String :=
  if isBare spec then some (libraryRoot ++ spec) else none

end Unbundled.Specifier
