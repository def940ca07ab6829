import Unbundled.Files.Lookup
import Unbundled.Json.Record

/-!
The configuration of a server: what the configuration file may say, and the settings that result
from it.
-/
namespace Unbundled

structure ServerOptions where
  tcpPort : Option Nat := none
  host : Option String := none
  deriving DecidableEq, Repr

structure TimeoutOptions where
  /-- The budget for reading a file, in milliseconds. -/
  readMs : Option Nat := none
  /-- The budget for making one module, in milliseconds. -/
  compileMs : Option Nat := none
  deriving DecidableEq, Repr

/-- The content of a configuration file. -/
structure ConfigFile where
  /-- The entry document, below the project root. -/
  entry : Option Path := none
  server : ServerOptions := {}
  timeouts : TimeoutOptions := {}
  deriving DecidableEq, Repr

def greatestPort : Nat := 65535

def greatestMs : Nat := Nat.pow 2 64 - 1

open Json in
def ServerOptions.schema : Schema ServerOptions where
  name := "ServerOptions"
  empty := {}
  closed := true
  fields :=
    [⟨"port", do
        let tcpPort ← Read.optional (Read.natValue "u16" greatestPort)
        return fun o => { o with tcpPort }⟩,
      ⟨"host", do
        let host ← Read.optional (Read.stringValue "a string")
        return fun o => { o with host }⟩]

open Json in
def TimeoutOptions.schema : Schema TimeoutOptions where
  name := "TimeoutOptions"
  empty := {}
  closed := true
  fields :=
    [⟨"readMs", do
        let readMs ← Read.optional (Read.natValue "u64" greatestMs)
        return fun o => { o with readMs }⟩,
      ⟨"compileMs", do
        let compileMs ← Read.optional (Read.natValue "u64" greatestMs)
        return fun o => { o with compileMs }⟩]

namespace ConfigFile

open Json in
def schema : Schema ConfigFile where
  name := "ConfigFile"
  empty := {}
  closed := true
  fields :=
    [⟨"entry", do
        let entry ← Read.optional (Read.stringValue "path string")
        return fun f => { f with entry := entry.map Path.mk }⟩,
      ⟨"server", do
        let server ← Read.record ServerOptions.schema
        return fun f => { f with server }⟩,
      ⟨"timeouts", do
        let timeouts ← Read.record TimeoutOptions.schema
        return fun f => { f with timeouts }⟩]

/-- Reads the content of a configuration file, or tells what is wrong with it. -/
def ofText (text : String) : Except String ConfigFile := schema.ofText text

/-- The name under which the file is looked for in the project root. -/
def defaultPath : Path := ⟨"toyvite.config.json"⟩

end ConfigFile

/-- The budgets that hold where a file names none. -/
def defaultReadMs : Nat := 250

def defaultCompileMs : Nat := 500

/-- The settings of a server. -/
structure Config where
  root : Path
  /-- The entry document. -/
  entry : Path
  /-- The directory of the entry document, where scripts and components are found. -/
  sourceDir : Path
  /-- The directory of the installed packages. -/
  modulesDir : Path
  readMs : Nat := defaultReadMs
  compileMs : Nat := defaultCompileMs
  deriving DecidableEq, Repr

namespace Config

def defaultEntry : Path := ⟨"src/index.html"⟩

def defaultPort : Nat := 3033

def defaultHost : String := "localhost"

/-- The settings of the project at `root` with the given entry document. -/
def ofEntry (root entry : Path) : Config :=
  let entry := root.join entry
  { root, entry, sourceDir := entry.parent?.getD root, modulesDir := root.join ⟨"node_modules"⟩ }

/-- The settings that a configuration file asks for. -/
def ofFile (root : Path) (file : ConfigFile) : Config :=
  let config := ofEntry root (file.entry.getD defaultEntry)
  { config with
    readMs := file.timeouts.readMs.getD config.readMs
    compileMs := file.timeouts.compileMs.getD config.compileMs }

/-- Finds the configuration file of a project: the one that is named, which has to be there, or
the one in the root, if there is one. -/
def findFile (root : Path) (named? : Option Path) : Lookup (Option Path) := do
  match named? with
  | some path => return some (root.join path)
  | none =>
    let path := root.join ConfigFile.defaultPath
    return if ← Lookup.isFile path then some path else none

/-- Loads the configuration file of a project, if there is one, with the path where it is. -/
def load (root : Path) (named? : Option Path) : Fetch (Option (Path × ConfigFile)) := do
  match ← (findFile root named? : Lookup (Option Path)) with
  | none => return none
  | some path =>
    let text ← Fetch.text path defaultReadMs (.configRead path)
    match ConfigFile.ofText text with
    | .ok file => return some (path, file)
    | .error reason => throw (.configParse path reason)

end Config

end Unbundled
