import Unbundled.Failure
import Unbundled.Text.Percent
import Unbundled.Text.Utf8

/-!
Request URLs: the path, the query and its `type` parameter, the extension of the last segment,
and the file below a base directory that a path names.
-/
namespace Unbundled.Url

/-- The text before the first `?` or `#`. -/
def pathChars (url : List Char) : List Char :=
  url.takeWhile fun c => !(c = '?' || c = '#')

/-- The text after the first `?`, wherever that stands, up to the next `#`. -/
def queryChars? (url : List Char) : Option (List Char) :=
  match url.dropWhile (· ≠ '?') with
  | [] => none
  | _ :: query => some (query.takeWhile (· ≠ '#'))

def path (url : String) : String := String.ofList (pathChars url.toList)

def query? (url : String) : Option String := (queryChars? url.toList).map String.ofList

/-- One component of a form: `+` is a space, escapes are undone, malformed text is replaced. -/
def formText (cs : List Char) : List Char :=
  Utf8.decodeLossy (Percent.decode ((Utf8.encode cs).map fun b => if b = 0x2B then 0x20 else b))

/-- The key and value of one pair of a form. -/
def formPair (cs : List Char) : List Char × List Char :=
  (formText (cs.takeWhile (· ≠ '=')), formText ((cs.dropWhile (· ≠ '=')).drop 1))

/-- The pairs of a form, in order; empty stretches between `&` are no pairs. -/
def formPairs (query : List Char) : List (List Char × List Char) :=
  ((Text.splitAt (· = '&') query).filter (· ≠ [])).map formPair

/-- The value of the first pair of the query whose key is `type`. -/
def type? (url : String) : Option String := do
  let query ← queryChars? url.toList
  let pair ← (formPairs query).find? (·.1 = "type".toList)
  return String.ofList pair.2

/-- The last `.` of the last segment and what follows it; a segment that only begins with its
last `.` has no extension. -/
def extensionChars? (path : List Char) : Option (List Char) :=
  let reversed := path.reverse.takeWhile (· ≠ '/')
  let tail := reversed.takeWhile (· ≠ '.')
  match reversed.drop (tail.length + 1), reversed.drop tail.length with
  | _ :: _, '.' :: _ => some ('.' :: tail.reverse)
  | _, _ => none

def extension? (path : String) : Option String :=
  (extensionChars? path.toList).map String.ofList

/-- The file below `base` that a path without query names. Escapes are undone first, then each
segment is appended; a `..` segment is refused. -/
def resolve (base : Path) (path : String) : Except Failure Path :=
  match Utf8.decode? (Percent.decode (Utf8.encode path.toList)) with
  | none => .error (.notFound ⟨path⟩)
  | some decoded =>
    (Path.ofChars (decoded.dropWhile (· = '/'))).components.foldlM
      (fun dir component =>
        match component with
        | .name s => .ok (dir.join ⟨s⟩)
        | .here => .ok dir
        | .up | .root => .error (.forbidden path))
      base

end Unbundled.Url
