import Unbundled.Component.Split
import Unbundled.Library

/-!
The server: what each URL is answered with. Every answer is made from the files as they are when
the request comes; nothing is kept from one request to the next.
-/
namespace Unbundled

/-- What a request that succeeds is answered with. -/
structure Served where
  kind : Artifact
  contentType : String
  body : List UInt8
  deriving DecidableEq, Repr

def Served.cache (s : Served) : CachePolicy := s.kind.cache

def octetsOf (text : String) : List UInt8 := Utf8.encode text.toList

namespace Server

def serveEntry (config : Config) : Fetch Served := do
  let text ← Fetch.text config.entry config.readMs
  return ⟨.entry, ContentType.html, octetsOf text⟩

/-- The file of a script. Those below the path of the libraries are part of a package. -/
def scriptFile (config : Config) (path : String) : Except Failure Path :=
  match Text.dropPrefix? libraryRoot.toList path.toList with
  | some rest => Url.resolve config.modulesDir (String.ofList rest)
  | none => Url.resolve config.sourceDir path

def serveScript (config : Config) (path : String) : Fetch Served := do
  let file ← scriptFile config path
  let text ← Fetch.text file config.readMs
  let code ← Fetch.work ("rewriting " ++ path) config.compileMs (redirectImports path text)
  return ⟨.script, ContentType.javascript, octetsOf code⟩

def serveLibrary (config : Config) (path : String) : Fetch Served := do
  let code ← Library.code config path
  return ⟨.library, ContentType.javascript, octetsOf code⟩

def serveComponent (config : Config) (path : String) (type? : Option String) : Fetch Served := do
  let file ← Url.resolve config.sourceDir path
  let source ← Fetch.text file config.readMs
  let code ← Fetch.work (Component.activity path) config.compileMs
    (Component.split path source type?)
  return ⟨.component, ContentType.javascript, octetsOf code⟩

/-- A static file. Where there is no regular file, nothing handles the request. -/
def serveStatic (config : Config) (path : String) : Fetch Served := do
  let file ← Url.resolve config.sourceDir path
  unless ← (Lookup.isFile file : Lookup Bool) do throw (.unhandled path)
  let octets ← Fetch.octets file config.readMs fun e =>
    if e.missing then .unhandled path else .ofIo file e
  return ⟨.unhandled, ContentType.ofPath path, octets⟩

/-- Makes what a URL asks for. -/
def handle (config : Config) (url : String) : Fetch Served :=
  let path := Url.path url
  match Artifact.ofUrl url with
  | .entry => serveEntry config
  | .script => serveScript config path
  | .library => serveLibrary config path
  | .component => serveComponent config path (Url.type? url)
  | .unhandled => serveStatic config path

end Server

/-- An answer, whether the request succeeds or not. -/
structure Response where
  status : Nat
  kind : Artifact
  contentType : String
  cache : CachePolicy
  body : List UInt8
  deriving DecidableEq, Repr

namespace Response

def ofServed (s : Served) : Response := ⟨200, s.kind, s.contentType, s.cache, s.body⟩

/-- The text by which a failure is made known. -/
def failureText (f : Failure) : String := "[toyvite] " ++ f.message

/-- A module that fails is answered with a module that tells the cause on the console of the
browser; other requests are answered with the text. -/
def ofFailure (kind : Artifact) (f : Failure) : Response :=
  match kind with
  | .script | .library | .component =>
    ⟨f.status, kind, ContentType.javascript, .revalidate,
      octetsOf ("console.error(" ++ Text.Quoted.encode (failureText f) ++ ");\n")⟩
  | .entry | .unhandled =>
    ⟨f.status, kind, ContentType.plainText, .revalidate, octetsOf (failureText f)⟩

end Response

/-- Answers a request. -/
def Server.respond (config : Config) (url : String) : Lookup Response := do
  match ← (handle config url).run with
  | .ok served => return .ofServed served
  | .error f => return .ofFailure (Artifact.ofUrl url) f

end Unbundled
