import Unbundled.Template.Node

/-!
White space in templates. Outside `<pre>` a run of blanks counts as one space, and blanks that
only lay out the markup are dropped: at the ends of a list of children, and between two elements
where the line is broken.
-/
namespace Unbundled.Template

/-- Adjacent texts become one. -/
def mergeTexts : List Node → List Node
  | .text a :: ns =>
    match mergeTexts ns with
    | .text b :: rest => .text (a ++ b) :: rest
    | rest => .text a :: rest
  | n :: ns => n :: mergeTexts ns
  | [] => []

def Node.breaksLine : Node → Bool
  | text content => content.toList.contains '\n'
  | _ => false

/-- Whether `n` is blank text that only lays out the markup between its neighbours. -/
def isLayout (before? : Option Node) (n : Node) (after? : Option Node) : Bool :=
  n.isBlankText &&
    match before?, after? with
    | some before, some after => before.isElement && after.isElement && n.breaksLine
    | _, _ => true

/-- Drops what only lays out the markup; `before?` is the node before the list. -/
def dropLayout (before? : Option Node) : List Node → List Node
  | [] => []
  | n :: ns =>
    if isLayout before? n ns.head? then dropLayout (some n) ns
    else n :: dropLayout (some n) ns

/-- Every run of blanks becomes one space; `inRun` holds behind a blank. -/
def collapseRuns (inRun : Bool) : List Char → List Char
  | [] => []
  | c :: cs =>
    if Text.isBlank c then if inRun then collapseRuns true cs else ' ' :: collapseRuns true cs
    else c :: collapseRuns false cs

def Node.collapse : Node → Node
  | text content => .text (String.ofList (collapseRuns false content.toList))
  | n => n

/-- One list of children, whose own children have been condensed. -/
def tidy (preserve : Bool) (ns : List Node) : List Node :=
  if preserve then mergeTexts ns else (dropLayout none (mergeTexts ns)).map Node.collapse

mutual

def Node.condense (preserve : Bool) : Node → Node
  | .element tag attributes children =>
    let preserve := preserve || tag == "pre"
    .element tag attributes (tidy preserve (Node.condenseList preserve children))
  | n => n

def Node.condenseList (preserve : Bool) : List Node → List Node
  | [] => []
  | n :: ns => n.condense preserve :: Node.condenseList preserve ns

end

/-- The roots of a template, condensed. -/
def condense (ns : List Node) : List Node := tidy false (Node.condenseList false ns)

end Unbundled.Template
