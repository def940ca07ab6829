import Unbundled.Template.Piece
import Mathlib.Data.List.Forall2
import Mathlib.Tactic.Lemma

/-!
# What a template shows

`Content` keeps of a template what its reader sees: elements, their fixed attributes, texts and
expressions, each below its parent and in the order of the source. `Node.contents` takes it from
the nodes of a template. Directives are left out, as are the blanks that separate the branches of
one chain of conditions.
-/

namespace Unbundled.Template

/-- How an element is created: by its tag, through the constant of a component, as the group of
its children, or by what a parent passes in under a name. -/
inductive ElementKind where
  | plain (tag : String)
  | component (binding : String)
  | group
  | slot (name : String)
  deriving DecidableEq, Repr

inductive Content where
  | element (kind : ElementKind) (attributes : List (Key × String)) (children : List Content)
  | text (content : String)
  | expression (source : String)

/-- `text` is the author's expression `source`, with what it takes from the component. -/
def IsScoped (source text : String) : Prop := ∃ scope, expression scope source = .ok text

inductive KeyAgrees : Key → Key → Prop
  | named (name : String) : KeyAgrees (.named name) (.named name)
  | computed {source text : String} (h : IsScoped source text) :
      KeyAgrees (.computed source) (.computed text)

def AttributeAgrees (a b : Key × String) : Prop := KeyAgrees a.1 b.1 ∧ a.2 = b.2

/-- The same content, where the second one has its expressions scoped. -/
inductive Content.Agrees : Content → Content → Prop
  | element {kind : ElementKind} {as bs : List (Key × String)} {cs ds : List Content}
      (attributes : List.Forall₂ AttributeAgrees as bs) (children : List.Forall₂ Agrees cs ds) :
      Agrees (.element kind as cs) (.element kind bs ds)
  | text (content : String) : Agrees (.text content) (.text content)
  | expression {source text : String} (h : IsScoped source text) :
      Agrees (.expression source) (.expression text)

/-- The order of two lists of contents, place by place. -/
abbrev Content.AgreesAll : List Content → List Content → Prop := List.Forall₂ Content.Agrees

lemma Content.AgreesAll.append {as bs cs ds : List Content} (h₁ : AgreesAll as bs)
    (h₂ : AgreesAll cs ds) : AgreesAll (as ++ cs) (bs ++ ds) :=
  List.rel_append h₁ h₂

/-- Directives begin with `v-` or with the sign of a short form. -/
def isFixedName (name : String) : Bool :=
  !(["v-", ":", "@", "#"].any fun start => Text.startsWith start.toList name.toList)

/-- The key that an attribute's name stands for. -/
def keyOfName (name : String) : Key :=
  match name.toList with
  | '[' :: cs =>
    if cs.getLast? = some ']' then .computed (String.ofList cs.dropLast) else .named name
  | _ => .named name

/-- A fixed attribute. Without a value it reads as empty. -/
def fixedAttribute (a : Markup.Attribute) : Key × String := (keyOfName a.name, a.value?.getD "")

/-- The fixed attributes that are called `name`. -/
def fixedNamed (name : String) (as : List Markup.Attribute) : List (Key × String) :=
  (as.filter (·.name == name)).map fixedAttribute

/-- The fixed attributes apart from classes and styles. -/
def fixedOthers (as : List Markup.Attribute) : List (Key × String) :=
  (as.filter fun a => isFixedName a.name && a.name != "class" && a.name != "style").map
    fixedAttribute

/-- The fixed attributes in their order, the classes and the styles behind the others. -/
def fixedAttributes (as : List Markup.Attribute) : List (Key × String) :=
  fixedOthers as ++ fixedNamed "class" as ++ fixedNamed "style" as

def hasAttribute (name : String) (as : List Markup.Attribute) : Bool :=
  as.any (·.name == name)

/-- The value of the first attribute called `name`. -/
def firstValue? (name : String) (as : List Markup.Attribute) : Option String :=
  (as.find? (·.name == name)).bind (·.value?)

namespace Node

/-- Whether the node is an element that goes on with a chain of conditions. -/
def continuesChain : Node → Bool
  | element _ as _ => hasAttribute "v-else-if" as || hasAttribute "v-else" as
  | _ => false

/-- Whether a chain of conditions is open behind the node; `open?` tells of the place before it. -/
def opensChain (open? : Bool) : Node → Bool
  | element tag as cs =>
    if open? && continuesChain (.element tag as cs) then !hasAttribute "v-else" as
    else hasAttribute "v-if" as
  | _ => false

/-- Whether the first node that is no blank text goes on with a chain. -/
def nextContinues : List Node → Bool
  | [] => false
  | n :: ns => if n.isBlankText then nextContinues ns else n.continuesChain

/-- What an element of that tag and those attributes is created as. -/
def kindOf (tag : String) (as : List Markup.Attribute) : ElementKind :=
  match tag with
  | "template" => .group
  | "slot" => .slot ((firstValue? "name" as).getD "default")
  | _ => if isComponentTag tag then .component (componentBinding tag) else .plain tag

/-- The attributes that an element of that tag shows. -/
def attributesOf (tag : String) (as : List Markup.Attribute) : List (Key × String) :=
  match tag with
  | "template" => []
  | "slot" => fixedAttributes (as.filter (·.name != "name"))
  | _ => fixedAttributes as

/-- Whether directives of the element take the place of its children. -/
def isFilled (tag : String) (as : List Markup.Attribute) : Bool :=
  match tag with
  | "template" | "slot" => false
  | _ => hasAttribute "v-html" as || hasAttribute "v-text" as

mutual

/-- What a node shows. -/
def content : Node → Content
  | text content => .text content
  | interpolation source => .expression source
  | element tag as cs =>
    .element (kindOf tag as) (attributesOf tag as)
      (if isFilled tag as then [] else contents false cs)

/-- What siblings show; `open?` tells whether a chain of conditions is open before them. -/
def contents (open? : Bool) : List Node → List Content
  | [] => []
  | n :: ns =>
    if open? && n.isBlankText && nextContinues ns then contents true ns
    else n.content :: contents (n.opensChain open?) ns

end

end Node

end Unbundled.Template
