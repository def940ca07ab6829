import Unbundled.Files.Lookup

/-!
A directory tree in memory, and the view of a file system that it gives to paths.
-/
namespace Unbundled

inductive Tree where
  | file (octets : List UInt8)
  | silent
  | directory (entries : List (String × Tree))

namespace Tree

def empty : Tree := directory []

def entry : Tree → Entry
  | file octets => .file octets
  | silent => .silent
  | directory _ => .directory

/-- The entry of that name in a directory. -/
def child? (name : String) : Tree → Option Tree
  | directory entries => entries.lookup name
  | _ => none

def isDirectory : Tree → Bool
  | directory _ => true
  | _ => false

/-- Replaces or adds the value of a key, or takes it away. -/
def setKey {α : Type} (key : String) (value? : Option α) :
    List (String × α) → List (String × α)
  | [] => (value?.map (key, ·)).toList
  | (k, v) :: rest =>
    if k = key then (value?.map (key, ·)).toList ++ rest else (k, v) :: setKey key value? rest

/-- Puts `new?` where the names lead, through directories that are made where there are none;
`none` takes away what is there. -/
def update (new? : Option Tree) : List String → Tree → Option Tree
  | [], _ => new?
  | name :: names, tree =>
    let entries := match tree with
      | directory entries => entries
      | _ => []
    match entries.lookup name, new? with
    | none, none => some tree
    | inner?, _ =>
      some (directory (setKey name (update new? names (inner?.getD empty)) entries))

/-- The names of a path, without the components that are no names. -/
def names (path : Path) : List String := path.components.filterMap fun
  | .name s => some s
  | _ => none

def write (tree : Tree) (path : Path) (new : Tree) : Tree :=
  (update (some new) (names path) tree).getD empty

def remove (tree : Tree) (path : Path) : Tree :=
  (update none (names path) tree).getD empty

/-! ### Paths -/

/-- The longest name and the longest path that can be looked up, in octets. -/
def maxName : Nat := 255

def maxPath : Nat := 4095

/-- Walks along the segments of a path; `above` holds the directories passed, the last one
first. Nothing is known of the directories above the first one: they count as empty. -/
def walk (above : List Tree) (tree : Tree) : List (List Char) → Except IoFailure Tree
  | [] => .ok tree
  | s :: rest =>
    if !tree.isDirectory then .error .notDirectory
    else if s = [] ∨ s = ['.'] then walk above tree rest
    else if s = ['.', '.'] then
      match above with
      | [] => walk [] empty rest
      | parent :: above => walk above parent rest
    else if maxName < Utf8.size s then .error .nameTooLong
    else
      match tree.child? (String.ofList s) with
      | some inner => walk (tree :: above) inner rest
      | none => .error .noEntry

/-- What a path leads to from the directory `tree`. Absolute paths lead to nothing. -/
def sight (tree : Tree) (path : Path) : Sighting :=
  let cs := path.text.toList
  if cs.contains '\x00' then .error .nulInName
  else if cs = [] then .error .noEntry
  else if maxPath < Utf8.size cs then .error .nameTooLong
  else (walk [] (if path.isAbsolute then empty else tree) path.segments).map entry

/-- The view of the paths from `tree`, where no work takes time. -/
def view (tree : Tree) : View := { sight := tree.sight }

end Tree

end Unbundled
