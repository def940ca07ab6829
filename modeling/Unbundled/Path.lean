import Unbundled.Text.Split

/-!
File paths as text. A path keeps its spelling; `components` reads it lexically: repeated slashes
and `.` segments carry no meaning, except a `.` that begins a relative path.
-/
namespace Unbundled

structure Path where
  text : String
  deriving DecidableEq, Repr, Inhabited

namespace Path

inductive Component where
  | root
  | here
  | up
  | name (s : String)
  deriving DecidableEq, Repr

def ofChars (cs : List Char) : Path := ⟨String.ofList cs⟩

def isAbsolute (p : Path) : Bool :=
  match p.text.toList with
  | '/' :: _ => true
  | _ => false

/-- The stretches of the text between slashes. -/
def segments (p : Path) : List (List Char) := Text.splitAt (· = '/') p.text.toList

/-- The component that a segment stands for behind the first one. -/
def innerComponent? (s : List Char) : Option Component :=
  if s = [] ∨ s = ['.'] then none
  else if s = ['.', '.'] then some .up
  else some (.name (String.ofList s))

/-- The component that the first segment stands for. -/
def firstComponent? (absolute : Bool) (s : List Char) : Option Component :=
  if absolute then some .root
  else if s = ['.'] then some .here
  else innerComponent? s

def components (p : Path) : List Component :=
  match p.segments with
  | [] => []
  | s :: rest => (firstComponent? p.isAbsolute s).toList ++ rest.filterMap innerComponent?

/-- Appends `q`, after a slash where one is needed; an absolute `q` replaces the path. -/
def join (p q : Path) : Path :=
  if q.isAbsolute then q
  else if p.text = "" ∨ p.text.toList.getLast? = some '/' then ⟨p.text ++ q.text⟩
  else ⟨p.text ++ "/" ++ q.text⟩

/-- The leading segments up to the last one that is a component. -/
def trimSegments (absolute : Bool) (segs : List (List Char)) : List (List Char) :=
  match segs with
  | [] => []
  | s :: rest =>
    let kept := (rest.reverse.dropWhile fun t => (innerComponent? t).isNone).reverse
    if kept ≠ [] then s :: kept
    else if (firstComponent? absolute s).isSome then [s]
    else []

/-- The path of the given segments; the root is the one whose only segment is empty. -/
def ofSegments (absolute : Bool) (segs : List (List Char)) : Path :=
  if absolute && segs.length ≤ 1 then ⟨"/"⟩ else ofChars (Text.joinWith ['/'] segs)

/-- The path without its last component; the root and the empty path have no parent. -/
def parent? (p : Path) : Option Path :=
  match trimSegments p.isAbsolute p.segments with
  | [] => none
  | [_] => if p.isAbsolute then none else some ⟨""⟩
  | segs => some (ofSegments p.isAbsolute (trimSegments p.isAbsolute segs.dropLast))

/-- The segments without those at both ends that are no components. -/
def trimInner (segs : List (List Char)) : List (List Char) :=
  let isNone (s : List Char) := (innerComponent? s).isNone
  ((segs.dropWhile isNone).reverse.dropWhile isNone).reverse

/-- What is left of inner segments behind the given components. -/
def dropComponents : List Component → List (List Char) → Option (List (List Char))
  | [], segs => some segs
  | _ :: _, [] => none
  | c :: cs, s :: segs =>
    match innerComponent? s with
    | none => dropComponents (c :: cs) segs
    | some d => if d = c then dropComponents cs segs else none

/-- The path as seen from `base`, if it begins with the components of `base`. -/
def relativeTo? (p base : Path) : Option Path :=
  match base.components, p.segments with
  | [], segs => some (ofSegments p.isAbsolute (trimSegments p.isAbsolute segs))
  | c :: cs, s :: segs =>
    if firstComponent? p.isAbsolute s = some c then
      (dropComponents cs segs).map fun rest => ofChars (Text.joinWith ['/'] (trimInner rest))
    else none
  | _ :: _, [] => none

/-- The names that a path passes through when each `..` takes the one before it away. -/
def plainNames (p : Path) : List String :=
  p.components.foldl (fun names c =>
    match c with
    | .name s => names ++ [s]
    | .up => names.dropLast
    | .root | .here => names) []

/-- The path without `.` and `..`. -/
def plain (p : Path) : Path :=
  ⟨(if p.isAbsolute then "/" else "") ++ "/".intercalate p.plainNames⟩

end Path

end Unbundled
