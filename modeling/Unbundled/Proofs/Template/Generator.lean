import Unbundled.Proofs.Template.Stack
import Unbundled.Proofs.Template.Steps

/-!
# Code generation on a stack

The generator of render modules with the names in force on a stack instead of passed down, and with
the helpers and components noted down where they are written instead of gathered from the finished
tree. `trail` only says in the log where a source stands.
-/

namespace Unbundled.Template

open Script (Diagnostic)

namespace Gen

/-! ## Properties -/

def key (trail : List Node) (name : String) : Gen Key :=
  match name.toList with
  | '[' :: cs =>
    if cs.getLast? = some ']' then
      Key.computed <$> compile ⟨trail, .key⟩ (String.ofList cs.dropLast)
    else pure (.named name)
  | _ => pure (.named name)

def addProperty (trail : List Node) (p : Props) (name : String) (v : Value) : Gen Props :=
  if name = "class" then pure { p with classes := p.classes ++ [v] }
  else if name = "style" then pure { p with styles := p.styles ++ [v] }
  else (fun key => p.addEntry (.property key v)) <$> key trail name

/-- Code that is run on the event. -/
def inline (trail : List Node) (value : String) : Gen Value := do
  match ← outcome (scopeWith prefixedExpression ⟨trail, .inline⟩ value) with
  | .ok e => return .onEvent e
  | .error _ =>
    match ← outcome (scopeWith prefixedStatements ⟨trail, .inline⟩ value) with
    | .ok statements => return .onEventBlock statements
    | .error e =>
      throw (.parseError ("invalid handler \x60" ++ value ++ "\x60: " ++ e.message))

def handler (trail : List Node) (value? : Option String) : Gen Value :=
  let value := Text.trim (value?.getD "")
  if value.isEmpty then pure .idle
  else if isSimplePath value || isFunctionExpression value then
    Value.source <$> compile ⟨trail, .handler⟩ value
  else pushing "$event" (inline trail value)

def radioValue (trail : List Node) (h : Host) : Gen Value :=
  match h.value? ":value" with
  | some source => Value.source <$> compile ⟨trail, .binding⟩ source
  | none => pure (.literal ((h.value? "value").getD "on"))

def model (trail : List Node) (h : Host) (p : Props) (value : String)
    (modifiers : List String) : Gen Props := do
  let path := Text.trim value
  unless isSimplePath path do
    throw (.parseError ("v-model value must be a property path: " ++ value))
  let target ← compile ⟨trail, .model⟩ path
  if h.isComponent then
    return (p.addNamed "modelValue" (.source target)).addEvent "onUpdate:modelValue"
      (.assign target (.reading .payload))
  let type := (h.value? "type").getD "text"
  if h.tag = "input" && type = "checkbox" then
    return (p.addNamed "checked" (.source target)).addEvent "onChange"
      (.assign target (.reading .checked))
  if h.tag = "input" && type = "radio" then
    let own ← radioValue trail h
    return (p.addNamed "checked" (.equal target own)).addEvent "onChange" (.assign target own)
  unless ["input", "textarea", "select"].contains h.tag do
    throw (.parseError ("v-model is not supported on <" ++ h.tag ++ ">"))
  let event := if h.tag = "select" || modifiers.contains "lazy" then "onChange" else "onInput"
  let read := Reading.value (modifiers.contains "trim") (modifiers.contains "number")
  return (p.addNamed "value" (.source target)).addEvent event (.assign target (.reading read))

/-- The value of a directive that needs one, as an expression. -/
def valueOf (trail : List Node) (h : Host) (a : Markup.Attribute) : Gen String := do
  compile ⟨trail, .binding⟩ (← ofResult (required h.tag a.name a.value?))

/-- A handler for events of one kind only. -/
def guarded (modifiers : List String) (v : Value) : Gen Value := do
  if modifiers.isEmpty then return v
  refer .withModifiers
  return .withModifiers v modifiers

/-- A handler for some keys only. -/
def keyed (keys : List String) (v : Value) : Gen Value := do
  if keys.isEmpty then return v
  refer .withKeys
  return .withKeys v keys

/-- Wraps a handler, as far as the modifiers ask for it. -/
def wrapped (modifiers : List String) (v : Value) : Gen Value := do
  let (system, keys) :=
    (modifiers.filter (!listenerModifiers.contains ·)).partition systemModifiers.contains
  keyed keys (← guarded system v)

def addAttribute (trail : List Node) (h : Host) (p : Props) (a : Markup.Attribute) :
    Gen Props := do
  match Directive.ofName a.name with
  | .none => return p
  | .html => return p.addNamed "innerHTML" (.source (← valueOf trail h a))
  | .textContent =>
    let source ← valueOf trail h a
    refer .toDisplayString
    return p.addNamed "textContent" (.display source)
  | .bindAll => return p.addEntry (.spread (← valueOf trail h a))
  | .model modifiers =>
    model trail h p (← ofResult (required h.tag a.name a.value?)) modifiers
  | .bind name modifiers =>
    let name := if modifiers.contains "camel" then camelize name else name
    let source ← compile ⟨trail, .binding⟩ (a.value?.getD (camelize name))
    addProperty trail p name (.source source)
  | .on event modifiers =>
    if event.startsWith "[" then
      throw (.parseError ("dynamic event names are not supported: " ++ a.name))
    let value ← handler trail a.value?
    return p.addEvent (handlerKey event modifiers) (← wrapped modifiers value)
  | .unsupported =>
    throw (.parseError ("unsupported directive " ++ a.name ++ " on <" ++ h.tag ++ ">"))
  | .plain => addProperty trail p a.name (.literal (a.value?.getD ""))

def props (trail : List Node) (h : Host) : Gen (List Entry) :=
  Props.toEntries <$> h.attributes.foldlM (addAttribute trail h) {}

/-! ## Elements -/

/-- Makes expressions of children. A text on its own becomes a node. -/
def place : List Render → Gen Unit
  | [] => return
  | .text _ :: rs => do
    refer .createTextVNode
    place rs
  | _ :: rs => place rs

/-- Children under a fragment. -/
def group (rs : List Render) : Gen Render := do
  place rs
  refer .fragment
  refer .createVNode
  return .vnode .fragment [] rs

def slot (trail : List Node) (h : Host) (below : Gen (List Render)) : Gen Render := do
  let others := h.attributes.filter (·.name != "name")
  let entries ← props trail ⟨h.tag, false, others⟩
  let fallback ← below
  place fallback
  refer .renderSlot
  return .slot ((h.value? "name").getD "default") entries fallback

/-- The tag of an element. -/
def tagOf (h : Host) : Gen Tag := do
  if h.isComponent then
    resolve h.tag
    return .component h.tag
  return .element h.tag

/-- The children under `tag`. The only text of an element stands alone. -/
def under (tag : Tag) (below : Gen (List Render)) : Gen (List Render) := do
  let children ← below
  match tag, children with
  | .element _, [.text _] => return children
  | _, _ =>
    place children
    return children

def withShow (trail : List Node) (h : Host) (node : Render) : Gen Render := do
  match h.attribute? "v-show" with
  | none => return node
  | some a =>
    match a.value? with
    | none => throw (.parseError ("<" ++ h.tag ++ "> has an empty v-show"))
    | some source =>
      let condition ← compile ⟨trail, .shown⟩ source
      refer .withDirectives
      refer .vShow
      return .shown condition node

/-- An element, its loop and conditions left out. -/
def plainElement (trail : List Node) (h : Host) (below : Gen (List Render)) : Gen Render :=
  if h.tag = "template" then do group (← below)
  else if h.tag = "slot" then slot trail h below
  else if h.tag = "component" then throw (.parseError "<component :is> is not supported")
  else do
    let entries ← props trail h
    let tag ← tagOf h
    let children ← under tag (if h.isFilled then pure [] else below)
    refer .createVNode
    withShow trail h (.vnode tag entries children)

/-- The parameters of a loop, in parentheses. -/
def paramsOf (binder : String) : String :=
  if binder.startsWith "(" then binder else "(" ++ binder ++ ")"

/-- An element with its loop, whose names are on the stack while the inside is generated. -/
def element (trail : List Node) (h : Host) (below : Gen (List Render)) : Gen Render :=
  match h.attribute? "v-for" with
  | none => plainElement trail h below
  | some a =>
    match splitLoop? (a.value?.getD "") with
    | none => throw (.parseError ("invalid v-for expression: " ++ a.value?.getD ""))
    | some (binder, source) => do
      let source ← compile ⟨trail, .loopSource⟩ source
      let names ← ofResult (aliasNames binder)
      let item ← within (paramsOf binder) names (plainElement trail h below)
      refer .renderList
      refer .fragment
      refer .createVNode
      return .loop source (paramsOf binder) item

/-! ## Siblings -/

/-- An element that waits for its turn among its siblings. -/
structure Stage where
  trail : List Node
  host : Host
  body : Gen Render

namespace Stage

def has (b : Stage) (name : String) : Bool := (b.host.attribute? name).isSome

def continues (b : Stage) : Bool := b.has "v-else-if" || b.has "v-else"

def condition (b : Stage) : Gen String := do
  let attribute? := (b.host.attribute? "v-if").or (b.host.attribute? "v-else-if")
  match attribute?.bind (·.value?) with
  | some source => compile ⟨b.trail, .condition⟩ source
  | none => throw (.parseError ("<" ++ b.host.tag ++ "> has an empty v-if condition"))

end Stage

/-- A child that waits for its turn. -/
inductive Part where
  | text (isBlank : Bool) (part : Gen TextPart)
  | element (b : Stage)

namespace Part

def isText : Part → Bool
  | text .. => true
  | element _ => false

def part? : Part → Option (Gen TextPart)
  | text _ part => some part
  | element _ => none

/-- The further branches of a chain and what follows it. -/
def takeBranches (blanks : List Part) : List Part → List Stage × List Part
  | [] => ([], blanks)
  | .text true part :: ps => takeBranches (blanks ++ [.text true part]) ps
  | .text false part :: ps => ([], blanks ++ .text false part :: ps)
  | .element b :: ps =>
    if !b.continues then ([], blanks ++ .element b :: ps)
    else if b.has "v-else" then ([b], ps)
    else
      let (bs, rest) := takeBranches [] ps
      (b :: bs, rest)

theorem length_takeBranches_le (blanks ps : List Part) :
    (takeBranches blanks ps).2.length ≤ blanks.length + ps.length := by
  fun_induction takeBranches blanks ps with
  | case1 => simp
  | case2 blanks part ps ih => simp_all; omega
  | case3 => simp
  | case4 => simp
  | case5 => simp; omega
  | case6 blanks b ps _ _ bs rest h ih => simp_all; omega

end Part

/-- What stands where no condition holds. -/
def otherwise : Gen Render := do
  refer .createCommentVNode
  return .placeholder

/-- A branch in front of what is chosen where its condition fails. -/
def Stage.over (b : Stage) (no : Render) : Gen Render := do
  let test ← b.condition
  let yes ← b.body
  return .conditional test yes no

/-- A chain of conditions; the last branch is generated first. -/
def conditional (bs : List Stage) : Gen Render := do
  match bs.getLast? with
  | some last =>
    if last.has "v-else" then bs.dropLast.foldrM Stage.over (← last.body)
    else bs.foldrM Stage.over (← otherwise)
  | none => otherwise

def siblings (ps : List Part) : Gen (List Render) :=
  match ps with
  | [] => pure []
  | .text blank part :: ps => do
    let run := (Part.text blank part :: ps.takeWhile Part.isText).filterMap Part.part?
    let parts ← run.mapM id
    have : (ps.dropWhile Part.isText).length < ps.length + 1 :=
      Nat.lt_succ_of_le (Markup.length_dropWhile_le _ _)
    return .text parts :: (← siblings (ps.dropWhile Part.isText))
  | .element b :: ps =>
    if b.has "v-if" then do
      have : (Part.takeBranches [] ps).2.length < ps.length + 1 := by
        simpa [Nat.lt_succ_iff] using Part.length_takeBranches_le [] ps
      let node ← conditional (b :: (Part.takeBranches [] ps).1)
      return node :: (← siblings (Part.takeBranches [] ps).2)
    else if b.continues then
      throw (.parseError
        ("<" ++ b.host.tag ++ "> has v-else/v-else-if without an adjacent v-if"))
    else do
      let node ← b.body
      return node :: (← siblings ps)
termination_by ps.length

end Gen

mutual

def Node.toPart (trail : List Node) : Node → Gen.Part
  | .text content => .text (isBlank content) (pure (.literal content))
  | .interpolation source =>
    .text false do
      let text ← Gen.compile ⟨trail, .interpolation⟩ source
      Gen.refer .toDisplayString
      return .display text
  | .element tag attributes children =>
    let h : Host := ⟨tag, isComponentTag tag, attributes⟩
    let own := trail ++ [.element tag attributes children]
    .element ⟨own, h, Gen.element own h (Gen.siblings (Node.toParts own children))⟩

def Node.toParts (trail : List Node) : List Node → List Gen.Part
  | [] => []
  | n :: ns => n.toPart trail :: Node.toParts trail ns

end

/-- The children of the last element of the trail. -/
def Gen.children (trail ns : List Node) : Gen (List Render) :=
  Gen.siblings (Node.toParts trail ns)

namespace Gen

/-- What the render function returns for the roots. -/
def root : List Render → Gen (Option Render)
  | [] => return none
  | [.text parts] => some <$> group [.text parts]
  | [r] => return some r
  | rs => some <$> group rs

/-- Each constant is written with the helper that resolves a component. -/
def resolveAll : List String → Gen Unit
  | [] => return
  | _ :: tags => do
    refer .resolveComponent
    resolveAll tags

/-- The module, with what has been noted down on the way. -/
def declare (root? : Option Render) : Gen String := do
  let tags := (← get).demands.components
  resolveAll tags
  return moduleWith (← get).demands.imports tags root?

/-- The render module of a template's roots. It begins with nothing to declare. -/
def module (roots : List Node) : Gen String := do
  modify fun g => { g with demands := {} }
  declare (← root (← children [] roots))

end Gen

end Unbundled.Template
