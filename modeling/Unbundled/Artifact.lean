import Unbundled.Url

/-!
The kinds of things that the server answers with, how a URL is classified, and the headers that
depend on the kind alone.
-/
namespace Unbundled

inductive Artifact where
  /-- The entry document. -/
  | entry
  /-- A module of the project. -/
  | script
  /-- The bundle of an installed package. -/
  | library
  /-- A single-file component, its script or its render module. -/
  | component
  /-- Anything else: a static file, if there is one. -/
  | unhandled
  deriving DecidableEq, Repr

inductive CachePolicy where
  | immutable
  | revalidate
  deriving DecidableEq, Repr

/-- Where packages are served from. -/
def libraryRoot : String := "/node_modules/"

def componentExtension : String := ".vue"

/-- The extension decides for scripts before the directory decides for libraries. -/
def Artifact.ofUrl (url : String) : Artifact :=
  let path := Url.path url
  let ext := Url.extension? path
  if path = "/" then .entry
  else if ext = some ".js" then .script
  else if Text.startsWith libraryRoot.toList path.toList then .library
  else if ext = some componentExtension then .component
  else .unhandled

def Artifact.cache : Artifact → CachePolicy
  | entry | library => .immutable
  | script | component | unhandled => .revalidate

def CachePolicy.header : CachePolicy → String
  | immutable => "max-age=31536000, immutable"
  | revalidate => "no-cache"

namespace ContentType

def javascript : String := "application/javascript; charset=utf-8"

def html : String := "text/html; charset=utf-8"

def plainText : String := "text/plain; charset=utf-8"

/-- The content type of a static file, by its extension in any case. -/
def ofPath (path : String) : String :=
  match (Url.extensionChars? path.toList).map fun e => String.ofList (e.map Char.toLower) with
  | some ".html" | some ".htm" => html
  | some ".css" => "text/css; charset=utf-8"
  | some ".json" => "application/json"
  | some ".svg" => "image/svg+xml"
  | some ".png" => "image/png"
  | some ".jpg" | some ".jpeg" => "image/jpeg"
  | some ".gif" => "image/gif"
  | some ".ico" => "image/x-icon"
  | some ".woff" => "font/woff"
  | some ".woff2" => "font/woff2"
  | some ".ttf" => "font/ttf"
  | some ".wasm" => "application/wasm"
  | some ".txt" => plainText
  | _ => "application/octet-stream"

end ContentType

end Unbundled
