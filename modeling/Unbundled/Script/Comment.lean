import Unbundled.Script.Node

/-!
Comments by place. A comment stands before the token that starts at an offset, or behind the one
that ends there; printing takes it out, so it is written once.
-/
namespace Unbundled.Script

structure Comment where
  isBlock : Bool
  text : String
  deriving DecidableEq, Repr

structure Comments where
  leading : List (Nat × Comment) := []
  trailing : List (Nat × Comment) := []
  deriving Repr, Inhabited

namespace Comments

def addLeading (cs : Comments) (offset : Nat) (c : Comment) : Comments :=
  { cs with leading := cs.leading ++ [(offset, c)] }

def addTrailing (cs : Comments) (offset : Nat) (c : Comment) : Comments :=
  { cs with trailing := cs.trailing ++ [(offset, c)] }

/-- The entries at `offset`, in order, and the others. -/
def takeAt (offset : Nat) (entries : List (Nat × Comment)) : List Comment × List (Nat × Comment) :=
  ((entries.filter (·.1 == offset)).map (·.2), entries.filter (·.1 != offset))

def takeLeading (cs : Comments) (offset : Nat) : List Comment × Comments :=
  let (taken, rest) := takeAt offset cs.leading
  (taken, { cs with leading := rest })

def takeTrailing (cs : Comments) (offset : Nat) : List Comment × Comments :=
  let (taken, rest) := takeAt offset cs.trailing
  (taken, { cs with trailing := rest })

end Comments

end Unbundled.Script
