import Unbundled.Template.Node
import Unbundled.Template.Props

/-!
From the tree of a template to what its render function returns. The names in force are passed
down and nothing else is; a node below a loop sees the names of the loop's alias.
-/
namespace Unbundled.Template

open Script (Diagnostic)

/-- A loop over an element: its source, its parameters in parentheses, and the names they bind. -/
structure Loop where
  source : String
  params : String
  names : List String

def Loop.ofValue (scope : List String) (value : String) : Except Diagnostic Loop := do
  match splitLoop? value with
  | none => throw (.parseError ("invalid v-for expression: " ++ value))
  | some (binder, source) =>
    let source ← expression scope source
    let names ← aliasNames binder
    return ⟨source, if binder.startsWith "(" then binder else "(" ++ binder ++ ")", names⟩

/-- An element whose inside has been rendered, so that its siblings can be put in order. -/
structure Branch where
  host : Host
  result : Except Diagnostic Render

namespace Branch

def has (b : Branch) (name : String) : Bool := (b.host.attribute? name).isSome

/-- Whether the element continues a chain of conditions. -/
def continues (b : Branch) : Bool := b.has "v-else-if" || b.has "v-else"

def condition (scope : List String) (b : Branch) : Except Diagnostic String := do
  let attribute? := (b.host.attribute? "v-if").or (b.host.attribute? "v-else-if")
  match attribute?.bind (·.value?) with
  | some source => expression scope source
  | none => throw (.parseError ("<" ++ b.host.tag ++ "> has an empty v-if condition"))

end Branch

/-- A child on its way to its place among its siblings. -/
inductive Piece where
  | text (isBlank : Bool) (part : Except Diagnostic TextPart)
  | element (b : Branch)

namespace Piece

def isText : Piece → Bool
  | text .. => true
  | element _ => false

def part? : Piece → Option (Except Diagnostic TextPart)
  | text _ part => some part
  | element _ => none

end Piece

/-- The further branches of a chain and what follows the chain. Blank text between branches is
dropped; `blanks` is the one that has been passed. -/
def takeBranches (blanks : List Piece) : List Piece → List Branch × List Piece
  | [] => ([], blanks)
  | .text true part :: ps => takeBranches (blanks ++ [.text true part]) ps
  | .text false part :: ps => ([], blanks ++ .text false part :: ps)
  | .element b :: ps =>
    if !b.continues then ([], blanks ++ .element b :: ps)
    else if b.has "v-else" then ([b], ps)
    else
      let (bs, rest) := takeBranches [] ps
      (b :: bs, rest)

theorem length_takeBranches_le (blanks ps : List Piece) :
    (takeBranches blanks ps).2.length ≤ blanks.length + ps.length := by
  fun_induction takeBranches blanks ps with
  | case1 => simp
  | case2 blanks part ps ih => simp_all; omega
  | case3 => simp
  | case4 => simp
  | case5 => simp; omega
  | case6 blanks b ps _ _ bs rest h ih => simp_all; omega

/-- A chain of conditions; the last branch is rendered first. -/
def conditionalOf (scope : List String) (bs : List Branch) : Except Diagnostic Render := do
  let (no, conditions) ← match bs.getLast? with
    | some last =>
      if last.has "v-else" then pure ((← last.result), bs.dropLast)
      else pure (.placeholder, bs)
    | none => pure (.placeholder, bs)
  conditions.foldrM (fun b no => do
    let test ← b.condition scope
    let yes ← b.result
    return .conditional test yes no) no

/-- The siblings in order: texts side by side become one, and a chain of conditions becomes one
node. -/
def assemble (scope : List String) (ps : List Piece) : Except Diagnostic (List Render) :=
  match ps with
  | [] => .ok []
  | .text blank part :: ps => do
    let run := (Piece.text blank part :: ps.takeWhile Piece.isText).filterMap Piece.part?
    let parts ← run.mapM id
    have : (ps.dropWhile Piece.isText).length < ps.length + 1 :=
      Nat.lt_succ_of_le (Markup.length_dropWhile_le _ _)
    return .text parts :: (← assemble scope (ps.dropWhile Piece.isText))
  | .element b :: ps =>
    if b.has "v-if" then do
      have : (takeBranches [] ps).2.length < ps.length + 1 := by
        simpa [Nat.lt_succ_iff] using length_takeBranches_le [] ps
      let node ← conditionalOf scope (b :: (takeBranches [] ps).1)
      return node :: (← assemble scope (takeBranches [] ps).2)
    else if b.continues then
      .error (.parseError
        ("<" ++ b.host.tag ++ "> has v-else/v-else-if without an adjacent v-if"))
    else do
      let node ← b.result
      return node :: (← assemble scope ps)
termination_by ps.length

/-- A tag that starts with a capital or has a hyphen names a component. -/
def isComponentTag (tag : String) : Bool :=
  tag.toList.head?.any Char.isUpper || tag.toList.contains '-'

def slotRender (scope : List String) (h : Host)
    (below : Except Diagnostic (List Render)) : Except Diagnostic Render := do
  let others := h.attributes.filter (·.name != "name")
  let props ← properties scope ⟨h.tag, false, others⟩
  return .slot ((h.value? "name").getD "default") props (← below)

/-- Hides the node of `h` while its condition fails, where it has one. -/
def withShow (scope : List String) (h : Host) (node : Render) : Except Diagnostic Render := do
  match h.attribute? "v-show" with
  | none => return node
  | some a =>
    match a.value? with
    | none => throw (.parseError ("<" ++ h.tag ++ "> has an empty v-show"))
    | some source => return .shown (← expression scope source) node

/-- An element, its loop and conditions left out; `below` are its children. -/
def elementRender (scope : List String) (h : Host)
    (below : Except Diagnostic (List Render)) : Except Diagnostic Render := do
  match h.tag with
  | "template" => return .vnode .fragment [] (← below)
  | "slot" => slotRender scope h below
  | "component" => throw (.parseError "<component :is> is not supported")
  | _ =>
    let props ← properties scope h
    let isFilled := (h.attribute? "v-html").isSome || (h.attribute? "v-text").isSome
    let children ← if isFilled then pure [] else below
    let tag := if h.isComponent then Tag.component h.tag else .element h.tag
    withShow scope h (.vnode tag props children)

/-- An element with its loop. -/
def loopedRender (scope : List String) (h : Host) (loop? : Except Diagnostic (Option Loop))
    (below : Except Diagnostic (List Render)) : Except Diagnostic Render := do
  match ← loop? with
  | none => elementRender scope h below
  | some l => return .loop l.source l.params (← elementRender (scope ++ l.names) h below)

def loopOf (scope : List String) (h : Host) : Except Diagnostic (Option Loop) :=
  match h.attribute? "v-for" with
  | none => .ok none
  | some a => (Loop.ofValue scope (a.value?.getD "")).map some

/-- The names that a loop adds to those around it. -/
def loopNames : Except Diagnostic (Option Loop) → List String
  | .ok (some l) => l.names
  | _ => []

mutual

def Node.toPiece (scope : List String) : Node → Piece
  | .text content => .text (isBlank content) (.ok (.literal content))
  | .interpolation source => .text false ((expression scope source).map .display)
  | .element tag attributes children =>
    let h : Host := ⟨tag, isComponentTag tag, attributes⟩
    let loop? := loopOf scope h
    let inner := scope ++ loopNames loop?
    .element ⟨h, loopedRender scope h loop?
      (assemble inner (Node.toPieces inner children))⟩

def Node.toPieces (scope : List String) : List Node → List Piece
  | [] => []
  | n :: ns => n.toPiece scope :: Node.toPieces scope ns

end

/-- What the roots of a template become. -/
def Render.ofNodes (roots : List Node) : Except Diagnostic (List Render) :=
  assemble [] (Node.toPieces [] roots)

end Unbundled.Template
