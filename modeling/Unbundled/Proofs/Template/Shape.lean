import Unbundled.Proofs.Template.Content

/-!
# Shapes of the returned expression

A `Shape` is the expression that a render function returns, as the calls, arrays, functions and
ternaries that it is written with; expressions of the author are texts in it. `Shape.text` writes
it down and `Shape.contents` takes from it what it shows. A `Render` stands for one shape, and
`text_shape` says that its text is the text of that shape.
-/

namespace Unbundled.Template

inductive Shape where
  /-- `createVNode(tag, props, children)`. -/
  | element (tag : Tag) (props : List Entry) (children? : Option Shape)
  /-- `createTextVNode(a + b)`. -/
  | textNode (parts : List TextPart)
  /-- `createCommentVNode("v-if", true)`. -/
  | comment
  /-- `a + b`, the only child of an element. -/
  | run (parts : List TextPart)
  | array (items : List Shape)
  /-- The children of a component, as a function for its default slot. -/
  | defaultSlot (items : List Shape)
  /-- What a slot shows when nothing is passed in, as a function. -/
  | fallback (items : List Shape)
  /-- `renderSlot($slots, name, props, fallback)`. -/
  | slot (name : String) (props : List Entry) (fallback? : Option Shape)
  /-- `renderList(source, params => item)`. -/
  | list (source : String) (params : String) (item : Shape)
  | ternary (test : String) (yes : Shape) (no : Shape)
  /-- `withDirectives(node, [[vShow, condition]])`. -/
  | directives (node : Shape) (condition : String)

namespace Shape

/-- The arguments of a slot behind its name. -/
def slotArgs : Option String → Option String → List String
  | none, none => []
  | some props, none => [props]
  | props?, some below => [props?.getD "\x7b\x7d", below]

def functionText (items : List String) : String := "() => " ++ arrayText items

/-- An object with a function for its default slot. -/
def defaultSlotText (items : List String) : String :=
  "\x7b default: () => " ++ arrayText items ++ " \x7d"

mutual

def text : Shape → String
  | element tag props children? =>
    vnodeText tag.text (propsText? props) (textOption children?)
  | textNode parts => callText .createTextVNode [runText parts]
  | comment => callText .createCommentVNode [quoted "v-if", "true"]
  | run parts => runText parts
  | array items => arrayText (textAll items)
  | defaultSlot items => defaultSlotText (textAll items)
  | fallback items => functionText (textAll items)
  | slot name props fallback? =>
    callText .renderSlot <| "_ctx.$slots" :: quoted name ::
      slotArgs (propsText? props) (textOption fallback?)
  | list source params item => callText .renderList [source, params ++ " => " ++ item.text]
  | ternary test yes no => "(" ++ test ++ ") ? " ++ yes.text ++ " : " ++ no.text
  | directives node condition =>
    callText .withDirectives
      [node.text, "[[" ++ Helper.vShow.text ++ ", " ++ condition ++ "]]"]

def textOption : Option Shape → Option String
  | none => none
  | some s => some s.text

def textAll : List Shape → List String
  | [] => []
  | s :: ss => s.text :: textAll ss

end

@[simp] lemma text_element (tag : Tag) (props : List Entry) (children? : Option Shape) :
    (element tag props children?).text =
      vnodeText tag.text (propsText? props) (textOption children?) := rfl

@[simp] lemma text_run (parts : List TextPart) : (run parts).text = runText parts := rfl

@[simp] lemma text_array (items : List Shape) : (array items).text = arrayText (textAll items) :=
  rfl

@[simp] lemma text_defaultSlot (items : List Shape) :
    (defaultSlot items).text = defaultSlotText (textAll items) := rfl

@[simp] lemma text_fallback (items : List Shape) :
    (fallback items).text = functionText (textAll items) := rfl

@[simp] lemma text_slot (name : String) (props : List Entry) (fallback? : Option Shape) :
    (slot name props fallback?).text = callText .renderSlot ("_ctx.$slots" :: quoted name ::
      slotArgs (propsText? props) (textOption fallback?)) := rfl

@[simp] lemma text_list (source params : String) (item : Shape) :
    (list source params item).text =
      callText .renderList [source, params ++ " => " ++ item.text] := rfl

@[simp] lemma text_ternary (test : String) (yes no : Shape) :
    (ternary test yes no).text = "(" ++ test ++ ") ? " ++ yes.text ++ " : " ++ no.text := rfl

@[simp] lemma text_directives (node : Shape) (condition : String) :
    (directives node condition).text = callText .withDirectives
      [node.text, "[[" ++ Helper.vShow.text ++ ", " ++ condition ++ "]]"] := rfl

@[simp] lemma textOption_none : textOption none = none := rfl

@[simp] lemma textOption_some (s : Shape) : textOption (some s) = some s.text := rfl

@[simp] lemma textAll_nil : textAll [] = [] := rfl

@[simp] lemma textAll_cons (s : Shape) (ss : List Shape) :
    textAll (s :: ss) = s.text :: textAll ss := rfl

end Shape

mutual

/-- The fixed texts in the value of a property. -/
def Value.literals : Value → List String
  | .literal s => [s]
  | .several vs => Value.literalsAll vs
  | _ => []

def Value.literalsAll : List Value → List String
  | [] => []
  | v :: vs => v.literals ++ Value.literalsAll vs

end

/-- The fixed attributes that a member of the object of properties holds. -/
def Entry.fixed : Entry → List (Key × String)
  | .property key v => v.literals.map (key, ·)
  | .spread _ => []

def fixedOf (props : List Entry) : List (Key × String) := props.flatMap Entry.fixed

def TextPart.content : TextPart → Content
  | .literal s => .text s
  | .display s => .expression s

def Tag.kind : Tag → ElementKind
  | .element name => .plain name
  | .component name => .component (componentBinding name)
  | .fragment => .group

namespace Shape

def isList : Option Shape → Bool
  | some (list ..) => true
  | _ => false

mutual

/-- What the expression shows. A loop shows its item, and of a ternary both branches count. -/
def contents : Shape → List Content
  | element tag props children? =>
    if isList children? then contentsOption children?
    else [.element tag.kind (fixedOf props) (contentsOption children?)]
  | textNode parts | run parts => parts.map TextPart.content
  | comment => []
  | array items | defaultSlot items | fallback items => contentsAll items
  | slot name props fallback? =>
    [.element (.slot name) (fixedOf props) (contentsOption fallback?)]
  | list _ _ item => item.contents
  | ternary _ yes no => yes.contents ++ no.contents
  | directives node _ => node.contents

def contentsOption : Option Shape → List Content
  | none => []
  | some s => s.contents

def contentsAll : List Shape → List Content
  | [] => []
  | s :: ss => s.contents ++ contentsAll ss

end

end Shape

namespace Render

mutual

/-- The shape of the expression for a node. -/
def shape : Render → Shape
  | text parts => .textNode parts
  | vnode tag props children => .element tag props (childrenShape? tag children)
  | loop source params item => .element .fragment [] (some (.list source params item.shape))
  | conditional test yes no => .ternary test yes.shape no.shape
  | placeholder => .comment
  | slot name props below => .slot name props (fallbackShape? below)
  | shown condition node => .directives node.shape condition

def shapes : List Render → List Shape
  | [] => []
  | n :: ns => n.shape :: shapes ns

def childrenShape? (tag : Tag) : List Render → Option Shape
  | [] =>
    match tag with
    | .fragment => some (.array [])
    | _ => none
  | n :: ns =>
    match tag, n, ns with
    | .element _, .text parts, [] => some (.run parts)
    | .component _, n, ns => some (.defaultSlot (n.shape :: shapes ns))
    | _, n, ns => some (.array (n.shape :: shapes ns))

def fallbackShape? : List Render → Option Shape
  | [] => none
  | n :: ns => some (.fallback (n.shape :: shapes ns))

end

mutual

/-- The text of a node's expression is the text of its shape. -/
theorem text_shape : (r : Render) → r.shape.text = r.exprText
  | text parts => rfl
  | vnode tag props children => by
    rw [shape, Shape.text_element, textOption_childrenShape? tag children, exprText]
  | loop source params item => by
    rw [shape, Shape.text_element, Shape.textOption_some, Shape.text_list, text_shape item]
    rfl
  | conditional test yes no => by
    rw [shape, Shape.text_ternary, text_shape yes, text_shape no, exprText]
  | placeholder => rfl
  | slot name props [] => by
    rw [shape, Shape.text_slot, fallbackShape?, exprText.eq_def]
    dsimp only
    rcases propsText? props with - | p <;> rfl
  | slot name props (n :: ns) => by
    rw [shape, Shape.text_slot, fallbackShape?, Shape.textOption_some, Shape.text_fallback,
      Shape.textAll_cons, text_shape n, textAll_shapes ns, Shape.functionText]
    conv_rhs => rw [exprText.eq_def]
    dsimp only
    rcases propsText? props with - | p
    · dsimp only [Shape.slotArgs]
      rw [exprTexts]
    · dsimp only [Shape.slotArgs]
      rw [exprTexts]
  | shown condition node => by
    rw [shape, Shape.text_directives, text_shape node, exprText]

theorem textAll_shapes : (ns : List Render) → Shape.textAll (shapes ns) = exprTexts ns
  | [] => rfl
  | n :: ns => by rw [shapes, Shape.textAll_cons, text_shape n, textAll_shapes ns, exprTexts]

theorem textOption_childrenShape? (tag : Tag) :
    (ns : List Render) → Shape.textOption (childrenShape? tag ns) = childrenText? tag ns
  | [] => by cases tag <;> rfl
  | n :: ns => by
    have hitems : Shape.textAll (shapes (n :: ns)) = n.exprText :: exprTexts ns := by
      rw [shapes, Shape.textAll_cons, text_shape n, textAll_shapes ns]
    have harray : (Shape.array (shapes (n :: ns))).text =
        arrayText (n.exprText :: exprTexts ns) := by
      rw [Shape.text_array, hitems]
    have hslot : (Shape.defaultSlot (shapes (n :: ns))).text =
        Shape.defaultSlotText (n.exprText :: exprTexts ns) := by
      rw [Shape.text_defaultSlot, hitems]
    cases tag with
    | fragment => exact congrArg some harray
    | component tag => exact congrArg some hslot
    | element tag =>
      cases n with
      | text parts =>
        cases ns with
        | nil => rfl
        | cons m ns => exact congrArg some harray
      | _ => exact congrArg some harray

end

end Render

end Unbundled.Template
