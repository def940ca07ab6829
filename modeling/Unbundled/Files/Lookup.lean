import Unbundled.Failure
import Unbundled.Text.Utf8

/-!
Computations that look at files and do work within a budget of time. What such a computation yields
depends on the answers to its looks and on how its work goes alone, so one computation runs on any
view of the world around it: on a tree in memory, or on a disk.
-/
namespace Unbundled

/-- What stands at a path. -/
inductive Entry where
  /-- A regular file. -/
  | file (octets : List UInt8)
  /-- Something that can be read like a file, but never yields anything. -/
  | silent
  | directory
  deriving DecidableEq, Repr

/-- The answer to a look. -/
abbrev Sighting := Except IoFailure Entry

/-- How a piece of work goes: the time that it takes and, where it breaks off without a result, the
report of the runtime. -/
structure Course where
  micros : Nat := 0
  broken? : Option String := none
  deriving DecidableEq, Repr

/-- What stands at each path, and how each piece of work goes. -/
structure View where
  sight : Path → Sighting
  course : String → Course := fun _ => {}

instance : CoeFun View fun _ => Path → Sighting := ⟨View.sight⟩

/-- A computation that looks at paths and does pieces of work, one after the other, and yields a
value. -/
inductive Lookup (α : Type) where
  | done (a : α)
  | look (path : Path) (next : Sighting → Lookup α)
  | work (activity : String) (next : Course → Lookup α)

namespace Lookup

variable {α β : Type}

def bind : Lookup α → (α → Lookup β) → Lookup β
  | done a, f => f a
  | look path next, f => look path fun s => (next s).bind f
  | work activity next, f => work activity fun c => (next c).bind f

instance : Monad Lookup where
  pure := done
  bind := bind

/-- The value that a view leads to. -/
def run (view : View) : Lookup α → α
  | done a => a
  | look path next => (next (view path)).run view
  | work activity next => (next (view.course activity)).run view

@[simp] theorem run_pure (view : View) (a : α) : (pure a : Lookup α).run view = a := rfl

@[simp] theorem run_bind (view : View) (l : Lookup α) (f : α → Lookup β) :
    (l >>= f).run view = (f (l.run view)).run view := by
  change (l.bind f).run view = _
  induction l with
  | done a => rfl
  | look path next ih => exact ih (view path)
  | work activity next ih => exact ih (view.course activity)

/-- What stands at a path. -/
def entry (path : Path) : Lookup Sighting := look path done

@[simp] theorem run_entry (view : View) (path : Path) : (entry path).run view = view path := rfl

/-- How a piece of work goes. -/
def course (activity : String) : Lookup Course := work activity done

def entryExists (path : Path) : Lookup Bool := do
  match ← entry path with
  | .ok _ => return true
  | .error _ => return false

def isFile (path : Path) : Lookup Bool := do
  match ← entry path with
  | .ok (.file _) => return true
  | _ => return false

end Lookup

/-- A computation that looks at files and may fail. -/
abbrev Fetch := ExceptT Failure Lookup

namespace Fetch

/-- The octets of a file. A file that does not yield them within the budget is given up; `failure`
says what it means that the file cannot be read. -/
def octets (path : Path) (budgetMs : Nat) (failure : IoFailure → Failure := .ofIo path) :
    Fetch (List UInt8) := do
  match ← (Lookup.entry path : Lookup Sighting) with
  | .ok (.file bs) => return bs
  | .ok .silent => throw (.timeout ("reading " ++ path.text) (budgetMs * 1000))
  | .ok .directory => throw (failure .isDirectory)
  | .error e => throw (failure e)

/-- The text of a file in UTF-8. -/
def text (path : Path) (budgetMs : Nat) (failure : IoFailure → Failure := .ofIo path) :
    Fetch String := do
  match Utf8.decode? (← octets path budgetMs failure) with
  | some cs => return String.ofList cs
  | none => throw (failure .notUtf8)

/-- The result of a piece of work. Work that takes longer than the budget is given up, whatever
comes of it. -/
def work {α : Type} (activity : String) (budgetMs : Nat) (result : Except Failure α) :
    Fetch α := do
  let course ← (Lookup.course activity : Lookup Course)
  if budgetMs * 1000 < course.micros then throw (.timeout activity (budgetMs * 1000))
  else
    match course.broken? with
    | some report => throw (.io ⟨activity⟩ ⟨false, report⟩)
    | none => result

end Fetch

end Unbundled
