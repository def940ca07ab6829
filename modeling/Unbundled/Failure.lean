import Unbundled.Path

/-!
Why a request or a start of the server fails. Each cause is a constructor; `message` holds all
wording and `status` the answer's status code.
-/
namespace Unbundled

/-- What went wrong in the file system, with the system's own wording. -/
structure IoFailure where
  missing : Bool
  text : String
  deriving DecidableEq, Repr

namespace IoFailure

def noEntry : IoFailure := ⟨true, "No such file or directory (os error 2)"⟩

def notDirectory : IoFailure := ⟨false, "Not a directory (os error 20)"⟩

def isDirectory : IoFailure := ⟨false, "Is a directory (os error 21)"⟩

def nameTooLong : IoFailure := ⟨false, "File name too long (os error 36)"⟩

def nulInName : IoFailure := ⟨false, "file name contained an unexpected NUL byte"⟩

def notUtf8 : IoFailure := ⟨false, "stream did not contain valid UTF-8"⟩

/-- Work that broke off by a fault of the program. The runtime's report also numbers the task. -/
def panicked : IoFailure := ⟨false, "task panicked"⟩

end IoFailure

inductive Failure where
  | notFound (path : Path)
  | parse (file : String) (reason : String)
  | resolution (package : String) (reason : String)
  | unhandled (path : String)
  | timeout (activity : String) (budgetMicros : Nat)
  | forbidden (path : String)
  | configRead (path : Path) (cause : IoFailure)
  | configParse (path : Path) (reason : String)
  | io (path : Path) (cause : IoFailure)
  deriving DecidableEq, Repr

namespace Failure

/-- A missing file is not found; every other cause keeps its text. -/
def ofIo (path : Path) (cause : IoFailure) : Failure :=
  if cause.missing then .notFound path else .io path cause

def message : Failure → String
  | notFound path => "Not found: " ++ path.text
  | parse file reason => "Failed to parse " ++ file ++ ": " ++ reason
  | resolution package reason => "Failed to resolve package '" ++ package ++ "': " ++ reason
  | unhandled path => "No handler for request path " ++ path
  | timeout activity budget =>
    "Timed out after " ++ toString (budget / 1000) ++ "ms while " ++ activity
  | forbidden path => "Request path escapes the serving directory: " ++ path
  | configRead path cause => "Failed to read config at " ++ path.text ++ ": " ++ cause.text
  | configParse path reason => "Failed to parse config at " ++ path.text ++ ": " ++ reason
  | io path cause => "IO error at " ++ path.text ++ ": " ++ cause.text

def status : Failure → Nat
  | notFound _ | unhandled _ => 404
  | forbidden _ => 403
  | timeout _ _ => 503
  | parse _ _ | resolution _ _ | configRead _ _ | configParse _ _ | io _ _ => 500

end Failure

end Unbundled
