import Unbundled.Config
import Unbundled.Imports
import Unbundled.Url

/-!
Installed packages. A package is served from the file that its manifest names as its module, with
the bare specifiers in it replaced.
-/
namespace Unbundled

/-- What the server reads of a package's manifest. -/
structure Manifest where
  /-- The path of the module, below the package. -/
  module : Option String := none
  deriving DecidableEq, Repr

open Json in
def Manifest.schema : Schema Manifest where
  name := "PackageManifest"
  empty := {}
  closed := false
  fields :=
    [⟨"module", do
        let module ← Read.optional (Read.stringValue "a string")
        return fun m => { m with module }⟩]

namespace Library

/-- The name of the package that a request path asks for. -/
def packageName (path : String) : Except Failure String :=
  let cs := path.toList
  let rest := (Text.dropPrefix? libraryRoot.toList cs).getD cs
  match Text.trimBy (· = '/') rest with
  | [] => .error (.notFound ⟨path⟩)
  | name => .ok (String.ofList name)

/-- The text without the `./` before it, however many there are. -/
def dropHere : List Char → List Char
  | '.' :: '/' :: cs => dropHere cs
  | cs => cs

/-- The module that a manifest names; a blank name is none. -/
def moduleOf (package : String) (manifest : Manifest) : Except Failure Path :=
  match manifest.module with
  | none => .error (.resolution package "package.json has no \"module\" field")
  | some m =>
    if m.toList.all Text.isBlank then
      .error (.resolution package "package.json has no \"module\" field")
    else .ok (Path.ofChars (dropHere m.toList))

/-- A package and the file of its module. -/
structure Resolved where
  package : String
  entry : Path
  deriving DecidableEq, Repr

/-- Finds the file of the package that a request path names. -/
def resolve (config : Config) (path : String) : Fetch Resolved := do
  let package ← packageName path
  let dir ← Url.resolve config.modulesDir package
  let text ← Fetch.text (dir.join ⟨"package.json"⟩) config.readMs
  match Manifest.schema.ofText text with
  | .error reason => throw (.resolution package ("invalid package.json: " ++ reason))
  | .ok manifest =>
    let module ← moduleOf package manifest
    return ⟨package, dir.join module⟩

/-- The code of the package that a request path names. -/
def code (config : Config) (path : String) : Fetch String := do
  let resolved ← resolve config path
  let text ← Fetch.text resolved.entry config.readMs
  Fetch.work ("rewriting " ++ resolved.entry.text) config.compileMs
    (redirectImports resolved.entry.text text)

end Library

end Unbundled
