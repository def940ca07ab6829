import Unbundled.Markup.Tag
import Unbundled.Template.Expression
import Unbundled.Template.Render

/-!
The properties of an element. Each attribute adds its entry in order; classes, styles and the
handlers of one event are merged and come last.
-/
namespace Unbundled.Template

open Script (Diagnostic)

/-- What the name of an attribute says. -/
inductive Directive where
  /-- Handled elsewhere, or without effect. -/
  | none
  | html
  | textContent
  | bindAll
  | model (modifiers : List String)
  | bind (name : String) (modifiers : List String)
  | on (event : String) (modifiers : List String)
  | unsupported
  /-- An ordinary attribute. -/
  | plain
  deriving DecidableEq, Repr

namespace Directive

/-- The parts of a name between its dots. -/
def dotted (s : List Char) : List String := (Text.splitAt (· = '.') s).map String.ofList

/-- The directives that are neither properties nor handlers. -/
def structural : List String :=
  ["v-if", "v-else-if", "v-else", "v-for", "v-show", "v-cloak", "v-once"]

def ofName (name : String) : Directive :=
  let cs := name.toList
  let after (starts : List String) := starts.findSome? fun s => Text.dropPrefix? s.toList cs
  if structural.contains name then .none
  else if name = "v-html" then .html
  else if name = "v-text" then .textContent
  else if name = "v-bind" then .bindAll
  else if let some arg := after ["v-model"] then .model ((dotted arg).drop 1)
  else if let some arg := after [":", "v-bind:"] then
    .bind ((dotted arg).headD "") ((dotted arg).drop 1)
  else if let some arg := after ["@", "v-on:"] then
    .on ((dotted arg).headD "") ((dotted arg).drop 1)
  else if (after ["v-", "#"]).isSome then .unsupported
  else .plain

end Directive

/-- An expression of the author, scoped. -/
def expression (scope : List String) (source : String) : Except Diagnostic String :=
  match prefixedExpression scope source with
  | .ok text => .ok text
  | .error e =>
    .error (.parseError ("invalid expression \x60" ++ source ++ "\x60: " ++ e.message))

def isBlank (s : String) : Bool := s.toList.all Text.isBlank

/-- The value of a directive that needs one. -/
def required (tag name : String) (value? : Option String) : Except Diagnostic String :=
  match value?.filter (!isBlank ·) with
  | some value => .ok value
  | none => .error (.parseError (name ++ " on <" ++ tag ++ "> requires a value"))

/-- A key; brackets around it hold an expression. -/
def propertyKey (scope : List String) (name : String) : Except Diagnostic Key :=
  match name.toList with
  | '[' :: cs =>
    if cs.getLast? = some ']' then
      (expression scope (String.ofList cs.dropLast)).map .computed
    else .ok (.named name)
  | _ => .ok (.named name)

/-- A handler. A path and a function are taken as they are, any other code is run on the event. -/
def handler (scope : List String) (value? : Option String) : Except Diagnostic Value :=
  let value := Text.trim (value?.getD "")
  if value.isEmpty then .ok .idle
  else if isSimplePath value || isFunctionExpression value then
    (expression scope value).map .source
  else
    let scope := scope ++ ["$event"]
    match prefixedExpression scope value with
    | .ok e => .ok (.onEvent e)
    | .error _ =>
      match prefixedStatements scope value with
      | .ok statements => .ok (.onEventBlock statements)
      | .error e =>
        .error (.parseError ("invalid handler \x60" ++ value ++ "\x60: " ++ e.message))

/-- Modifiers that are part of the name of an event. -/
def listenerModifiers : List String := ["once", "capture", "passive"]

/-- Modifiers that a handler is wrapped for; any other one names a key. -/
def systemModifiers : List String :=
  ["stop", "prevent", "self", "ctrl", "shift", "alt", "meta", "left", "middle", "right", "exact"]

def capitalize (s : String) : String := String.ofList (Text.capitalize s.toList)

/-- The property under which the handlers of an event stand. -/
def handlerKey (event : String) (modifiers : List String) : String :=
  String.join ("on" :: capitalize (camelize event) ::
    (modifiers.filter listenerModifiers.contains).map capitalize)

def guardHandler (modifiers : List String) (h : Value) : Value :=
  let others := modifiers.filter (!listenerModifiers.contains ·)
  let (system, keys) := others.partition systemModifiers.contains
  let h := if system.isEmpty then h else .withModifiers h system
  if keys.isEmpty then h else .withKeys h keys

/-- The properties of an element while its attributes are read. -/
structure Props where
  entries : List Entry := []
  classes : List Value := []
  styles : List Value := []
  events : List (String × Value) := []

namespace Props

def addEntry (p : Props) (e : Entry) : Props := { p with entries := p.entries ++ [e] }

def addNamed (p : Props) (name : String) (v : Value) : Props :=
  p.addEntry (.property (.named name) v)

def addEvent (p : Props) (key : String) (v : Value) : Props :=
  { p with events := p.events ++ [(key, v)] }

/-- Adds a property; classes and styles are kept apart. -/
def addProperty (p : Props) (scope : List String) (name : String) (v : Value) :
    Except Diagnostic Props :=
  match name with
  | "class" => .ok { p with classes := p.classes ++ [v] }
  | "style" => .ok { p with styles := p.styles ++ [v] }
  | _ => (propertyKey scope name).map fun key => p.addEntry (.property key v)

end Props

/-- The element whose attributes are read. -/
structure Host where
  tag : String
  isComponent : Bool
  attributes : List Markup.Attribute

namespace Host

def attribute? (h : Host) (name : String) : Option Markup.Attribute :=
  h.attributes.find? (·.name == name)

def value? (h : Host) (name : String) : Option String := (h.attribute? name).bind (·.value?)

end Host

/-- What a radio button stands for. -/
def radioValue (scope : List String) (h : Host) : Except Diagnostic Value :=
  match h.value? ":value" with
  | some source => (expression scope source).map .source
  | none => .ok (.literal ((h.value? "value").getD "on"))

/-- Binds a form element or a component to `value` in both directions. -/
def Props.addModel (p : Props) (scope : List String) (h : Host) (value : String)
    (modifiers : List String) : Except Diagnostic Props := do
  let path := Text.trim value
  unless isSimplePath path do
    throw (.parseError ("v-model value must be a property path: " ++ value))
  let target ← expression scope path
  if h.isComponent then
    return (p.addNamed "modelValue" (.source target)).addEvent "onUpdate:modelValue"
      (.assign target (.reading .payload))
  let type := (h.value? "type").getD "text"
  if h.tag = "input" && type = "checkbox" then
    return (p.addNamed "checked" (.source target)).addEvent "onChange"
      (.assign target (.reading .checked))
  if h.tag = "input" && type = "radio" then
    let own ← radioValue scope h
    return (p.addNamed "checked" (.equal target own)).addEvent "onChange" (.assign target own)
  unless ["input", "textarea", "select"].contains h.tag do
    throw (.parseError ("v-model is not supported on <" ++ h.tag ++ ">"))
  let event := if h.tag = "select" || modifiers.contains "lazy" then "onChange" else "onInput"
  let read := Reading.value (modifiers.contains "trim") (modifiers.contains "number")
  return (p.addNamed "value" (.source target)).addEvent event (.assign target (.reading read))

/-- Adds what one attribute of `h` stands for. -/
def Props.add (scope : List String) (h : Host) (p : Props) (a : Markup.Attribute) :
    Except Diagnostic Props := do
  match Directive.ofName a.name with
  | .none => return p
  | .html => return p.addNamed "innerHTML" (.source (← valueOf))
  | .textContent => return p.addNamed "textContent" (.display (← valueOf))
  | .bindAll => return p.addEntry (.spread (← valueOf))
  | .model modifiers => p.addModel scope h (← required h.tag a.name a.value?) modifiers
  | .bind name modifiers =>
    let name := if modifiers.contains "camel" then camelize name else name
    let source ← expression scope (a.value?.getD (camelize name))
    p.addProperty scope name (.source source)
  | .on event modifiers =>
    if event.startsWith "[" then
      throw (.parseError ("dynamic event names are not supported: " ++ a.name))
    let value ← handler scope a.value?
    return p.addEvent (handlerKey event modifiers) (guardHandler modifiers value)
  | .unsupported =>
    throw (.parseError ("unsupported directive " ++ a.name ++ " on <" ++ h.tag ++ ">"))
  | .plain => p.addProperty scope a.name (.literal (a.value?.getD ""))
where
  /-- The value as an expression. -/
  valueOf : Except Diagnostic String := do
    expression scope (← required h.tag a.name a.value?)

/-- One value stands alone, several in an array. -/
def mergedValue : List Value → Value
  | [v] => v
  | vs => .several vs

/-- The values of each key in order, the keys in the order of their first values. -/
def groupByKey (pairs : List (String × Value)) : List (String × List Value) :=
  let keys := (pairs.map (·.1)).eraseDups
  keys.map fun key => (key, (pairs.filter (·.1 == key)).map (·.2))

def mergedEntry (name : String) (vs : List Value) : List Entry :=
  if vs.isEmpty then [] else [.property (.named name) (mergedValue vs)]

def Props.toEntries (p : Props) : List Entry :=
  p.entries ++ mergedEntry "class" p.classes ++ mergedEntry "style" p.styles
    ++ (groupByKey p.events).flatMap fun (key, vs) => mergedEntry key vs

/-- The properties that the attributes of `h` stand for. -/
def properties (scope : List String) (h : Host) : Except Diagnostic (List Entry) :=
  (h.attributes.foldlM (Props.add scope h) {}).map Props.toEntries

end Unbundled.Template
