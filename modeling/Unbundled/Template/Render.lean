import Unbundled.Template.Pattern
import Unbundled.Text.Quoted

/-!
What a render function returns, as a tree. Expressions of the author are texts here, already
scoped; everything else has a shape, so that the helpers and components that the text refers to
can be listed.
-/
namespace Unbundled.Template

/-- What a render module may import from the runtime, in the order of the import. -/
inductive Helper where
  | resolveComponent
  | createVNode
  | createTextVNode
  | createCommentVNode
  | toDisplayString
  | fragment
  | renderList
  | renderSlot
  | withDirectives
  | vShow
  | withModifiers
  | withKeys
  deriving DecidableEq, Repr

namespace Helper

def all : List Helper :=
  [resolveComponent, createVNode, createTextVNode, createCommentVNode, toDisplayString, fragment,
   renderList, renderSlot, withDirectives, vShow, withModifiers, withKeys]

theorem mem_all (h : Helper) : h ∈ all := by cases h <;> decide

/-- The name in the runtime. -/
def name : Helper → String
  | resolveComponent => "resolveComponent"
  | createVNode => "createVNode"
  | createTextVNode => "createTextVNode"
  | createCommentVNode => "createCommentVNode"
  | toDisplayString => "toDisplayString"
  | fragment => "Fragment"
  | renderList => "renderList"
  | renderSlot => "renderSlot"
  | withDirectives => "withDirectives"
  | vShow => "vShow"
  | withModifiers => "withModifiers"
  | withKeys => "withKeys"

/-- The name in the module. -/
def text (h : Helper) : String := "_" ++ h.name

end Helper

def quoted (s : String) : String := Text.Quoted.encode s

def commaSeparated (texts : List String) : String := ", ".intercalate texts

/-- `helper(a, b)`. -/
def callText (h : Helper) (args : List String) : String :=
  h.text ++ "(" ++ commaSeparated args ++ ")"

def arrayText (items : List String) : String := "[" ++ commaSeparated items ++ "]"

/-- The key of a property: a name, or an expression in brackets. -/
inductive Key where
  | named (name : String)
  | computed (source : String)
  deriving DecidableEq, Repr

def Key.text : Key → String
  | named name => if isIdentifier name then name else quoted name
  | computed source => "[" ++ source ++ "]"

/-- What a form element tells through an event. -/
inductive Reading where
  | payload
  | checked
  | value (isTrimmed : Bool) (isNumber : Bool)
  deriving DecidableEq, Repr

def Reading.text : Reading → String
  | payload => "$event"
  | checked => "$event.target.checked"
  | value isTrimmed isNumber =>
    let read := if isTrimmed then "$event.target.value.trim()" else "$event.target.value"
    if isNumber then "Number(" ++ read ++ ")" else read

/-- The value of a property. -/
inductive Value where
  /-- An expression of the author. -/
  | source (text : String)
  /-- Text of the author, to be quoted. -/
  | literal (text : String)
  /-- An expression shown as text. -/
  | display (source : String)
  | equal (target : String) (value : Value)
  | several (values : List Value)
  | idle
  /-- An expression that is run on the event. -/
  | onEvent (source : String)
  /-- Statements that are run on the event. -/
  | onEventBlock (statements : String)
  | assign (target : String) (value : Value)
  | reading (r : Reading)
  | withModifiers (handler : Value) (modifiers : List String)
  | withKeys (handler : Value) (keys : List String)

namespace Value

mutual

def text : Value → String
  | source s => s
  | literal s => quoted s
  | display s => callText .toDisplayString [s]
  | equal target v => target ++ " === " ++ v.text
  | several vs => arrayText (textAll vs)
  | idle => "() => \x7b\x7d"
  | onEvent s => "$event => (" ++ s ++ ")"
  | onEventBlock statements => "$event => \x7b " ++ statements ++ " \x7d"
  | assign target v => "$event => (" ++ target ++ " = " ++ v.text ++ ")"
  | reading r => r.text
  | withModifiers handler modifiers =>
    callText .withModifiers [handler.text, arrayText (modifiers.map quoted)]
  | withKeys handler keys => callText .withKeys [handler.text, arrayText (keys.map quoted)]

def textAll : List Value → List String
  | [] => []
  | v :: vs => v.text :: textAll vs

end

mutual

/-- The helpers that the text refers to. -/
def helpers : Value → List Helper
  | display _ => [.toDisplayString]
  | equal _ v | assign _ v => v.helpers
  | several vs => helpersAll vs
  | withModifiers handler _ => .withModifiers :: handler.helpers
  | withKeys handler _ => .withKeys :: handler.helpers
  | _ => []

def helpersAll : List Value → List Helper
  | [] => []
  | v :: vs => v.helpers ++ helpersAll vs

end

end Value

/-- A member of the object of properties. -/
inductive Entry where
  | property (key : Key) (value : Value)
  /-- All properties of an object. -/
  | spread (source : String)

namespace Entry

def text : Entry → String
  | property key value => key.text ++ ": " ++ value.text
  | spread source => "...(" ++ source ++ ")"

def helpers : Entry → List Helper
  | property _ value => value.helpers
  | spread _ => []

end Entry

/-- The object of properties; there is none without properties. -/
def propsText? : List Entry → Option String
  | [] => none
  | es => some ("\x7b " ++ commaSeparated (es.map Entry.text) ++ " \x7d")

inductive TextPart where
  | literal (text : String)
  | display (source : String)
  deriving DecidableEq, Repr

namespace TextPart

def text : TextPart → String
  | literal s => quoted s
  | display s => callText .toDisplayString [s]

def helpers : TextPart → List Helper
  | literal _ => []
  | display _ => [.toDisplayString]

end TextPart

def runText (parts : List TextPart) : String := " + ".intercalate (parts.map TextPart.text)

inductive Tag where
  | element (name : String)
  | component (name : String)
  | fragment
  deriving DecidableEq, Repr

/-- The constant that holds a component. -/
def componentBinding (tag : String) : String :=
  "_component_" ++ String.ofList (tag.toList.map fun c => if c.isAlphanum then c else '_')

def Tag.text : Tag → String
  | element name => quoted name
  | component name => componentBinding name
  | fragment => Helper.fragment.text

def Tag.helpers : Tag → List Helper
  | fragment => [.fragment]
  | _ => []

def Tag.components : Tag → List String
  | component name => [name]
  | _ => []

/-- What a template becomes: nodes of the virtual tree, and what chooses and repeats them. -/
inductive Render where
  /-- Texts and expressions side by side. -/
  | text (parts : List TextPart)
  | vnode (tag : Tag) (props : List Entry) (children : List Render)
  /-- One item for each member of `source`. -/
  | loop (source : String) (params : String) (item : Render)
  | conditional (test : String) (yes : Render) (no : Render)
  /-- Stands where no condition holds. -/
  | placeholder
  | slot (name : String) (props : List Entry) (fallback : List Render)
  | shown (condition : String) (node : Render)

/-- The text of `createVNode` with the arguments that are there. -/
def vnodeText (tag : String) (props? children? : Option String) : String :=
  callText .createVNode <| tag ::
    match props?, children? with
    | none, none => []
    | some props, none => [props]
    | props?, some children => [props?.getD "null", children]

namespace Render

mutual

/-- The expression for a node. -/
def exprText : Render → String
  | text parts => callText .createTextVNode [runText parts]
  | vnode tag props children =>
    vnodeText tag.text (propsText? props) (childrenText? tag children)
  | loop source params item =>
    vnodeText Helper.fragment.text none
      (callText .renderList [source, params ++ " => " ++ item.exprText])
  | conditional test yes no => "(" ++ test ++ ") ? " ++ yes.exprText ++ " : " ++ no.exprText
  | placeholder => callText .createCommentVNode [quoted "v-if", "true"]
  | slot name props fallback =>
    callText .renderSlot <| "_ctx.$slots" :: quoted name ::
      match propsText? props, fallback with
      | none, [] => []
      | some props, [] => [props]
      | props?, fallback =>
        [props?.getD "\x7b\x7d", "() => " ++ arrayText (exprTexts fallback)]
  | shown condition node =>
    callText .withDirectives
      [node.exprText, "[[" ++ Helper.vShow.text ++ ", " ++ condition ++ "]]"]

def exprTexts : List Render → List String
  | [] => []
  | n :: ns => n.exprText :: exprTexts ns

/-- The argument for children: an element's only text stands alone, a component takes a function
for its default slot. -/
def childrenText? (tag : Tag) : List Render → Option String
  | [] =>
    match tag with
    | .fragment => some "[]"
    | _ => none
  | n :: ns =>
    match tag, n, ns with
    | .element _, .text parts, [] => some (runText parts)
    | .component _, n, ns =>
      some ("\x7b default: () => " ++ arrayText (n.exprText :: exprTexts ns) ++ " \x7d")
    | _, n, ns => some (arrayText (n.exprText :: exprTexts ns))

end

mutual

/-- The helpers that the expression refers to. -/
def helpers : Render → List Helper
  | text parts => .createTextVNode :: parts.flatMap TextPart.helpers
  | vnode tag props children =>
    .createVNode :: tag.helpers ++ props.flatMap Entry.helpers ++ childrenHelpers tag children
  | loop _ _ item => [.createVNode, .fragment, .renderList] ++ item.helpers
  | conditional _ yes no => yes.helpers ++ no.helpers
  | placeholder => [.createCommentVNode]
  | slot _ props fallback =>
    .renderSlot :: props.flatMap Entry.helpers ++ helpersAll fallback
  | shown _ node => [.withDirectives, .vShow] ++ node.helpers

def helpersAll : List Render → List Helper
  | [] => []
  | n :: ns => n.helpers ++ helpersAll ns

/-- The helpers that the argument for children refers to. -/
def childrenHelpers (tag : Tag) : List Render → List Helper
  | [] => []
  | n :: ns =>
    match tag, n, ns with
    | .element _, .text parts, [] => parts.flatMap TextPart.helpers
    | _, n, ns => n.helpers ++ helpersAll ns

end

mutual

/-- The tags of the components that the expression refers to. Of two branches the second one
comes first. -/
def components : Render → List String
  | text _ | placeholder => []
  | vnode tag _ children => tag.components ++ componentsAll children
  | loop _ _ item => item.components
  | conditional _ yes no => no.components ++ yes.components
  | slot _ _ fallback => componentsAll fallback
  | shown _ node => node.components

def componentsAll : List Render → List String
  | [] => []
  | n :: ns => n.components ++ componentsAll ns

end

end Render

end Unbundled.Template
