/-!
What the script compiler reports: a message and, when it is known, the place in the text.
-/
namespace Unbundled.Script

inductive Phase where
  | parse
  | emit
  deriving DecidableEq, Repr

def Phase.code : Phase → String
  | parse => "COMPILER_PARSE_ERROR"
  | emit => "COMPILER_EMIT_ERROR"

/-- Lines count from one; columns count characters from zero. -/
structure Position where
  line : Nat
  column : Nat
  deriving DecidableEq, Repr

structure Diagnostic where
  phase : Phase
  message : String
  position : Option Position
  deriving DecidableEq, Repr

namespace Diagnostic

/-- A parse error without a place. -/
def parseError (message : String) : Diagnostic := ⟨.parse, message, none⟩

def display (d : Diagnostic) : String :=
  d.phase.code ++ ": " ++ d.message ++
    match d.position with
    | some p => " at " ++ toString p.line ++ ":" ++ toString p.column
    | none => ""

end Diagnostic

end Unbundled.Script
