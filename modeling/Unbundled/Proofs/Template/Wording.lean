import Unbundled.Proofs.Template.Shape

/-!
# The wording of generated code

A `Chunk` is a stretch of generated code: fixed words, a generated name, a text of the author, the
name of a property, or a text to be quoted. `Shape.chunks` lists the chunks of an expression in
order, `wording` puts them together again, and `mem_names_shape` says which generated names are
among them.
-/

namespace Unbundled.Template

/-- A name that the generator makes up: of a helper, or of the constant for a component. -/
inductive Name where
  | helper (h : Helper)
  | component (tag : String)
  deriving DecidableEq

def Name.text : Name → String
  | helper h => h.text
  | component tag => componentBinding tag

inductive Chunk where
  | fixed (text : String)
  | name (n : Name)
  /-- An expression, statements or parameters, as the author has them. -/
  | author (text : String)
  /-- The name of a property, before its colon. -/
  | key (text : String)
  /-- A text that is written as a string literal. -/
  | literal (text : String)
  deriving DecidableEq

namespace Chunk

def text : Chunk → String
  | fixed t => t
  | name n => n.text
  | author t => t
  | key t => t
  | literal t => quoted t

def name? : Chunk → Option Name
  | name n => some n
  | _ => none

end Chunk

def wording (cs : List Chunk) : String := String.join (cs.map Chunk.text)

def namesIn (cs : List Chunk) : List Name := cs.filterMap Chunk.name?

def separated (sep : String) : List (List Chunk) → List Chunk
  | [] => []
  | [item] => item
  | item :: next :: items => item ++ .fixed sep :: separated sep (next :: items)

def callChunks (h : Helper) (args : List (List Chunk)) : List Chunk :=
  .name (.helper h) :: .fixed "(" :: separated ", " args ++ [.fixed ")"]

def arrayChunks (items : List (List Chunk)) : List Chunk :=
  .fixed "[" :: separated ", " items ++ [.fixed "]"]

def literalChunks (texts : List String) : List Chunk := arrayChunks (texts.map ([.literal ·]))

def Key.chunks : Key → List Chunk
  | named name => if isIdentifier name then [.key name] else [.literal name]
  | computed source => [.fixed "[", .author source, .fixed "]"]

mutual

def Value.chunks : Value → List Chunk
  | .source s => [.author s]
  | .literal s => [.literal s]
  | .display s => callChunks .toDisplayString [[.author s]]
  | .equal target v => .author target :: .fixed " === " :: v.chunks
  | .several vs => arrayChunks (Value.chunksAll vs)
  | .idle => [.fixed "() => \x7b\x7d"]
  | .onEvent s => [.fixed "$event => (", .author s, .fixed ")"]
  | .onEventBlock s => [.fixed "$event => \x7b ", .author s, .fixed " \x7d"]
  | .assign target v =>
    .fixed "$event => (" :: .author target :: .fixed " = " :: v.chunks ++ [.fixed ")"]
  | .reading r => [.fixed r.text]
  | .withModifiers handler modifiers =>
    callChunks .withModifiers [handler.chunks, literalChunks modifiers]
  | .withKeys handler keys => callChunks .withKeys [handler.chunks, literalChunks keys]

def Value.chunksAll : List Value → List (List Chunk)
  | [] => []
  | v :: vs => v.chunks :: Value.chunksAll vs

end

def Entry.chunks : Entry → List Chunk
  | property key value => key.chunks ++ .fixed ": " :: value.chunks
  | spread source => [.fixed "...(", .author source, .fixed ")"]

def propsChunks? : List Entry → Option (List Chunk)
  | [] => none
  | e :: es =>
    some (.fixed "\x7b " :: separated ", " ((e :: es).map Entry.chunks) ++ [.fixed " \x7d"])

def TextPart.chunks : TextPart → List Chunk
  | literal s => [.literal s]
  | display s => callChunks .toDisplayString [[.author s]]

def runChunks (parts : List TextPart) : List Chunk := separated " + " (parts.map TextPart.chunks)

def Tag.chunks : Tag → List Chunk
  | element name => [.literal name]
  | component name => [.name (.component name)]
  | fragment => [.name (.helper .fragment)]

def vnodeChunks (tag : List Chunk) (props? children? : Option (List Chunk)) : List Chunk :=
  callChunks .createVNode <| tag ::
    match props?, children? with
    | none, none => []
    | some props, none => [props]
    | props?, some children => [props?.getD [.fixed "null"], children]

namespace Shape

def slotArgChunks : Option (List Chunk) → Option (List Chunk) → List (List Chunk)
  | none, none => []
  | some props, none => [props]
  | props?, some below => [props?.getD [.fixed "\x7b\x7d"], below]

mutual

def chunks : Shape → List Chunk
  | element tag props children? =>
    vnodeChunks tag.chunks (propsChunks? props) (chunksOption children?)
  | textNode parts => callChunks .createTextVNode [runChunks parts]
  | comment => callChunks .createCommentVNode [[.literal "v-if"], [.fixed "true"]]
  | run parts => runChunks parts
  | array items => arrayChunks (chunksAll items)
  | defaultSlot items =>
    .fixed "\x7b default: () => " :: arrayChunks (chunksAll items) ++ [.fixed " \x7d"]
  | fallback items => .fixed "() => " :: arrayChunks (chunksAll items)
  | slot name props fallback? =>
    callChunks .renderSlot <| [.fixed "_ctx.$slots"] :: [.literal name] ::
      slotArgChunks (propsChunks? props) (chunksOption fallback?)
  | list source params item =>
    callChunks .renderList [[.author source], .author params :: .fixed " => " :: item.chunks]
  | ternary test yes no =>
    .fixed "(" :: .author test :: .fixed ") ? " :: yes.chunks ++ .fixed " : " :: no.chunks
  | directives node condition =>
    callChunks .withDirectives [node.chunks, [.fixed "[[", .name (.helper .vShow), .fixed ", ",
      .author condition, .fixed "]]"]]

def chunksOption : Option Shape → Option (List Chunk)
  | none => none
  | some s => some s.chunks

def chunksAll : List Shape → List (List Chunk)
  | [] => []
  | s :: ss => s.chunks :: chunksAll ss

end

end Shape

/-! ## Putting the chunks together -/

@[simp] lemma wording_nil : wording [] = "" := rfl

@[simp] lemma wording_cons (c : Chunk) (cs : List Chunk) :
    wording (c :: cs) = c.text ++ wording cs := by
  simp [wording, String.join_cons]

@[simp] lemma wording_append (cs ds : List Chunk) :
    wording (cs ++ ds) = wording cs ++ wording ds := by
  induction cs with
  | nil => simp
  | cons c cs ih => rw [List.cons_append, wording_cons, ih, wording_cons, String.append_assoc]

@[simp] lemma wording_separated (sep : String) (items : List (List Chunk)) :
    wording (separated sep items) = sep.intercalate (items.map wording) := by
  induction items with
  | nil => simp [separated]
  | cons item items ih =>
    cases items with
    | nil => simp [separated]
    | cons next items =>
      rw [separated, wording_append, wording_cons, ih]
      simp [Chunk.text, String.append_assoc]

@[simp] lemma wording_call (h : Helper) (args : List (List Chunk)) :
    wording (callChunks h args) = callText h (args.map wording) := by
  simp [callChunks, callText, commaSeparated, Chunk.text, Name.text, String.append_assoc]

@[simp] lemma wording_array (items : List (List Chunk)) :
    wording (arrayChunks items) = arrayText (items.map wording) := by
  simp [arrayChunks, arrayText, commaSeparated, Chunk.text, String.append_assoc]

@[simp] lemma wording_literals (texts : List String) :
    wording (literalChunks texts) = arrayText (texts.map quoted) := by
  simp [literalChunks, Function.comp_def, Chunk.text]

mutual

lemma wording_value : (v : Value) → wording v.chunks = v.text
  | .source s => by simp [Value.chunks, Value.text, Chunk.text]
  | .literal s => by simp [Value.chunks, Value.text, Chunk.text]
  | .display s => by simp [Value.chunks, Value.text, Chunk.text]
  | .equal target v => by
    simp [Value.chunks, Value.text, Chunk.text, wording_value v, String.append_assoc]
  | .several vs => by rw [Value.chunks, Value.text, wording_array, wording_values vs]
  | .idle => by simp [Value.chunks, Value.text, Chunk.text]
  | .onEvent s => by simp [Value.chunks, Value.text, Chunk.text, String.append_assoc]
  | .onEventBlock s => by simp [Value.chunks, Value.text, Chunk.text, String.append_assoc]
  | .assign target v => by
    simp [Value.chunks, Value.text, Chunk.text, wording_value v, String.append_assoc]
  | .reading r => by simp [Value.chunks, Value.text, Chunk.text]
  | .withModifiers handler modifiers => by
    simp [Value.chunks, Value.text, wording_value handler]
  | .withKeys handler keys => by simp [Value.chunks, Value.text, wording_value handler]

lemma wording_values : (vs : List Value) → (Value.chunksAll vs).map wording = Value.textAll vs
  | [] => rfl
  | v :: vs => by
    rw [Value.chunksAll, List.map_cons, wording_value v, wording_values vs, Value.textAll]

end

lemma wording_key (k : Key) : wording k.chunks = k.text := by
  cases k with
  | named name => by_cases h : isIdentifier name <;> simp [Key.chunks, Key.text, Chunk.text, h]
  | computed source => simp [Key.chunks, Key.text, Chunk.text, String.append_assoc]

lemma wording_entry (e : Entry) : wording e.chunks = e.text := by
  cases e with
  | property key value =>
    simp [Entry.chunks, Entry.text, Chunk.text, wording_key, wording_value, String.append_assoc]
  | spread source => simp [Entry.chunks, Entry.text, Chunk.text, String.append_assoc]

lemma wording_props (es : List Entry) : (propsChunks? es).map wording = propsText? es := by
  cases es with
  | nil => rfl
  | cons e es =>
    have hitems : (e :: es).map (wording ∘ Entry.chunks) = (e :: es).map Entry.text :=
      List.map_congr_left fun e _ => wording_entry e
    simp only [propsChunks?, propsText?, Option.map_some, wording_cons, wording_append,
      wording_separated, List.map_map, hitems]
    simp [Chunk.text, commaSeparated, String.append_assoc]

lemma wording_run (parts : List TextPart) : wording (runChunks parts) = runText parts := by
  have hpart (p : TextPart) : wording p.chunks = p.text := by
    cases p <;> simp [TextPart.chunks, TextPart.text, Chunk.text]
  simp [runChunks, runText, hpart, Function.comp_def]

lemma wording_tag (t : Tag) : wording t.chunks = t.text := by
  cases t <;> simp [Tag.chunks, Tag.text, Chunk.text, Name.text]

lemma wording_vnode (tag : List Chunk) (props? children? : Option (List Chunk)) :
    wording (vnodeChunks tag props? children?) =
      vnodeText (wording tag) (props?.map wording) (children?.map wording) := by
  cases props? <;> cases children? <;> simp [vnodeChunks, vnodeText, Chunk.text]

lemma wording_slotArgs (props? below : Option (List Chunk)) :
    (Shape.slotArgChunks props? below).map wording =
      Shape.slotArgs (props?.map wording) (below.map wording) := by
  cases props? <;> cases below <;> simp [Shape.slotArgChunks, Shape.slotArgs, Chunk.text]

mutual

/-- The chunks of an expression make up its text. -/
theorem wording_shape : (s : Shape) → wording s.chunks = s.text
  | .element tag props children? => by
    rw [Shape.chunks, wording_vnode, wording_tag, wording_props, wording_shapeOption children?,
      Shape.text_element]
  | .textNode parts => by simp [Shape.chunks, Shape.text, wording_run]
  | .comment => by
    rw [Shape.chunks, wording_call, List.map_cons, List.map_cons, List.map_nil, wording_cons,
      wording_cons, wording_nil, String.append_empty, String.append_empty]
    rfl
  | .run parts => by rw [Shape.chunks, wording_run, Shape.text_run]
  | .array items => by rw [Shape.chunks, wording_array, wording_shapes items, Shape.text_array]
  | .defaultSlot items => by
    rw [Shape.chunks, wording_append, wording_cons, wording_array, wording_shapes items,
      wording_cons, wording_nil, String.append_empty]
    rfl
  | .fallback items => by
    simp [Shape.chunks, Chunk.text, Shape.functionText, wording_shapes items]
  | .slot name props fallback? => by
    simp [Shape.chunks, Chunk.text, wording_slotArgs, wording_props,
      wording_shapeOption fallback?]
  | .list source params item => by
    simp [Shape.chunks, Chunk.text, wording_shape item, String.append_assoc]
  | .ternary test yes no => by
    simp [Shape.chunks, Chunk.text, wording_shape yes, wording_shape no, String.append_assoc]
  | .directives node condition => by
    simp [Shape.chunks, Chunk.text, Name.text, wording_shape node, String.append_assoc]

theorem wording_shapeOption : (s? : Option Shape) →
    (Shape.chunksOption s?).map wording = Shape.textOption s?
  | none => rfl
  | some s => by
    rw [Shape.chunksOption, Option.map_some, wording_shape s, Shape.textOption_some]

theorem wording_shapes : (ss : List Shape) →
    (Shape.chunksAll ss).map wording = Shape.textAll ss
  | [] => rfl
  | s :: ss => by
    rw [Shape.chunksAll, List.map_cons, wording_shape s, wording_shapes ss, Shape.textAll_cons]

end

/-! ## Generated names -/

@[simp] lemma namesIn_nil : namesIn [] = [] := rfl

@[simp] lemma namesIn_append (cs ds : List Chunk) :
    namesIn (cs ++ ds) = namesIn cs ++ namesIn ds :=
  List.filterMap_append

@[simp] lemma namesIn_name (n : Name) (cs : List Chunk) :
    namesIn (.name n :: cs) = n :: namesIn cs := rfl

@[simp] lemma namesIn_fixed (t : String) (cs : List Chunk) :
    namesIn (.fixed t :: cs) = namesIn cs := rfl

@[simp] lemma namesIn_author (t : String) (cs : List Chunk) :
    namesIn (.author t :: cs) = namesIn cs := rfl

@[simp] lemma namesIn_key (t : String) (cs : List Chunk) :
    namesIn (.key t :: cs) = namesIn cs := rfl

@[simp] lemma namesIn_literal (t : String) (cs : List Chunk) :
    namesIn (.literal t :: cs) = namesIn cs := rfl

@[simp] lemma namesIn_separated (sep : String) (items : List (List Chunk)) :
    namesIn (separated sep items) = items.flatMap namesIn := by
  induction items with
  | nil => rfl
  | cons item items ih =>
    cases items with
    | nil => simp [separated]
    | cons next items =>
      rw [separated, namesIn_append, namesIn_fixed, ih]
      rfl

@[simp] lemma namesIn_call (h : Helper) (args : List (List Chunk)) :
    namesIn (callChunks h args) = .helper h :: args.flatMap namesIn := by
  simp [callChunks]

@[simp] lemma namesIn_array (items : List (List Chunk)) :
    namesIn (arrayChunks items) = items.flatMap namesIn := by
  simp [arrayChunks]

@[simp] lemma namesIn_literals (texts : List String) : namesIn (literalChunks texts) = [] := by
  simp [literalChunks, List.flatMap_map]

mutual

lemma namesIn_value : (v : Value) → namesIn v.chunks = v.helpers.map .helper
  | .source s | .literal s | .idle | .onEvent s | .onEventBlock s | .reading r => rfl
  | .display s => rfl
  | .equal target v => by simp [Value.chunks, Value.helpers, namesIn_value v]
  | .assign target v => by simp [Value.chunks, Value.helpers, namesIn_value v]
  | .several vs => by rw [Value.chunks, Value.helpers, namesIn_array, namesIn_values vs]
  | .withModifiers handler modifiers => by
    simp [Value.chunks, Value.helpers, namesIn_value handler]
  | .withKeys handler keys => by simp [Value.chunks, Value.helpers, namesIn_value handler]

lemma namesIn_values : (vs : List Value) →
    (Value.chunksAll vs).flatMap namesIn = (Value.helpersAll vs).map .helper
  | [] => rfl
  | v :: vs => by
    rw [Value.chunksAll, List.flatMap_cons, namesIn_value v, namesIn_values vs, Value.helpersAll,
      List.map_append]

end

lemma namesIn_entry (e : Entry) : namesIn e.chunks = e.helpers.map .helper := by
  cases e with
  | property key value =>
    have hkey : namesIn key.chunks = [] := by
      cases key with
      | named name => by_cases h : isIdentifier name <;> simp [Key.chunks, h]
      | computed source => rfl
    simp [Entry.chunks, Entry.helpers, hkey, namesIn_value]
  | spread source => rfl

lemma namesIn_props (es : List Entry) :
    ((propsChunks? es).map namesIn).getD [] = (es.flatMap Entry.helpers).map .helper := by
  have hitems (es : List Entry) :
      (es.map Entry.chunks).flatMap namesIn = (es.flatMap Entry.helpers).map .helper := by
    induction es with
    | nil => rfl
    | cons e es ih =>
      rw [List.map_cons, List.flatMap_cons, List.flatMap_cons, List.map_append, ih, namesIn_entry]
  cases es with
  | nil => rfl
  | cons e es =>
    rw [← hitems]
    simp [propsChunks?]

lemma namesIn_run (parts : List TextPart) :
    namesIn (runChunks parts) = (parts.flatMap TextPart.helpers).map .helper := by
  rw [runChunks, namesIn_separated]
  induction parts with
  | nil => rfl
  | cons p parts ih =>
    have hpart : namesIn p.chunks = p.helpers.map .helper := by cases p <;> rfl
    rw [List.map_cons, List.flatMap_cons, List.flatMap_cons, List.map_append, ih, hpart]

/-- The name is one of these helpers or stands for one of these components. -/
def Name.In (helpers : List Helper) (components : List String) : Name → Prop
  | helper h => h ∈ helpers
  | component tag => tag ∈ components

lemma mem_namesIn_vnode (tag : List Chunk) (props? children? : Option (List Chunk)) (n : Name) :
    n ∈ namesIn (vnodeChunks tag props? children?) ↔
      n = .helper .createVNode ∨ n ∈ namesIn tag ∨ n ∈ (props?.map namesIn).getD [] ∨
        n ∈ (children?.map namesIn).getD [] := by
  cases props? <;> cases children? <;> simp [vnodeChunks]

lemma mem_namesIn_slotArgs (props? below : Option (List Chunk)) (n : Name) :
    n ∈ (Shape.slotArgChunks props? below).flatMap namesIn ↔
      n ∈ (props?.map namesIn).getD [] ∨ n ∈ (below.map namesIn).getD [] := by
  cases props? <;> cases below <;> simp [Shape.slotArgChunks]

mutual

/-- The generated names in the text of a node are its helpers and its components. -/
theorem mem_names_shape (n : Name) : (r : Render) →
    (n ∈ namesIn r.shape.chunks ↔ n.In r.helpers r.components)
  | .text parts => by
    cases n <;>
      simp [Render.shape, Shape.chunks, namesIn_run, Name.In, Render.helpers, Render.components]
  | .vnode tag props children => by
    have hchildren := mem_names_children n tag children
    rw [Render.shape, Shape.chunks, mem_namesIn_vnode, namesIn_props, hchildren]
    cases tag <;> cases n <;>
      simp [Name.In, Render.helpers, Render.components, Tag.chunks, Tag.helpers, Tag.components]
  | .loop source params item => by
    have hitem := mem_names_shape n item
    cases n <;>
      simp [Render.shape, Shape.chunks, Shape.chunksOption, vnodeChunks, propsChunks?, Tag.chunks,
        Name.In, Render.helpers, Render.components] at hitem ⊢ <;>
      simp [hitem]
  | .conditional test yes no => by
    have hyes := mem_names_shape n yes
    have hno := mem_names_shape n no
    cases n <;> simp [Render.shape, Shape.chunks, Name.In, Render.helpers,
      Render.components] at hyes hno ⊢ <;> simp [hyes, hno, or_comm]
  | .placeholder => by
    cases n <;> simp [Render.shape, Shape.chunks, Name.In, Render.helpers, Render.components]
  | .slot name props below => by
    have hbelow := mem_names_below n below
    rw [Render.shape, Shape.chunks, namesIn_call, List.mem_cons, List.flatMap_cons,
      List.flatMap_cons, List.mem_append, List.mem_append, mem_namesIn_slotArgs, namesIn_props,
      hbelow]
    cases n <;> simp [Name.In, Render.helpers, Render.components]
  | .shown condition node => by
    have hnode := mem_names_shape n node
    cases n <;> simp [Render.shape, Shape.chunks, Name.In, Render.helpers,
      Render.components] at hnode ⊢ <;> simp [hnode, or_comm, or_left_comm]

theorem mem_names_shapes (n : Name) : (rs : List Render) →
    (n ∈ (Shape.chunksAll (Render.shapes rs)).flatMap namesIn ↔
      n.In (Render.helpersAll rs) (Render.componentsAll rs))
  | [] => by
    cases n <;>
      simp [Render.shapes, Shape.chunksAll, Name.In, Render.helpersAll, Render.componentsAll]
  | r :: rs => by
    have hr := mem_names_shape n r
    have hrs := mem_names_shapes n rs
    rw [Render.shapes, Shape.chunksAll, List.flatMap_cons, List.mem_append, hr, hrs]
    cases n <;> simp [Name.In, Render.helpersAll, Render.componentsAll]

theorem mem_names_children (n : Name) (tag : Tag) : (rs : List Render) →
    (n ∈ ((Shape.chunksOption (Render.childrenShape? tag rs)).map namesIn).getD [] ↔
      n.In (Render.childrenHelpers tag rs) (Render.componentsAll rs))
  | [] => by
    cases tag <;> cases n <;>
      simp [Render.childrenShape?, Shape.chunksOption, Shape.chunks, Shape.chunksAll, Name.In,
        Render.childrenHelpers, Render.componentsAll]
  | r :: rs => by
    have hitems : n ∈ (Shape.chunksAll (Render.shapes (r :: rs))).flatMap namesIn ↔
        n.In (r.helpers ++ Render.helpersAll rs) (Render.componentsAll (r :: rs)) := by
      have hr := mem_names_shape n r
      have hrs := mem_names_shapes n rs
      rw [Render.shapes, Shape.chunksAll, List.flatMap_cons, List.mem_append, hr, hrs]
      cases n <;> simp [Name.In, Render.componentsAll]
    have harray : n ∈ namesIn (Shape.array (Render.shapes (r :: rs))).chunks ↔
        n.In (r.helpers ++ Render.helpersAll rs) (Render.componentsAll (r :: rs)) := by
      rw [Shape.chunks, namesIn_array, hitems]
    have hslot : n ∈ namesIn (Shape.defaultSlot (Render.shapes (r :: rs))).chunks ↔
        n.In (r.helpers ++ Render.helpersAll rs) (Render.componentsAll (r :: rs)) := by
      rw [Shape.chunks, namesIn_append, namesIn_fixed, namesIn_array, namesIn_fixed, namesIn_nil,
        List.append_nil, hitems]
    cases tag with
    | fragment => exact harray
    | component tag => exact hslot
    | element tag =>
      cases r with
      | text parts =>
        cases rs with
        | nil =>
          cases n <;> simp [Render.childrenShape?, Shape.chunksOption, Shape.chunks, namesIn_run,
            Name.In, Render.childrenHelpers, Render.componentsAll, Render.components]
        | cons s rs => exact harray
      | _ => exact harray

theorem mem_names_below (n : Name) : (rs : List Render) →
    (n ∈ ((Shape.chunksOption (Render.fallbackShape? rs)).map namesIn).getD [] ↔
      n.In (Render.helpersAll rs) (Render.componentsAll rs))
  | [] => by
    cases n <;> simp [Render.fallbackShape?, Shape.chunksOption, Name.In, Render.helpersAll,
      Render.componentsAll]
  | r :: rs => by
    have hr := mem_names_shape n r
    have hrs := mem_names_shapes n rs
    rw [Render.fallbackShape?, Shape.chunksOption, Option.map_some, Option.getD_some,
      Shape.chunks, namesIn_fixed, namesIn_array, Shape.chunksAll, List.flatMap_cons,
      List.mem_append, hr, hrs]
    cases n <;> simp [Name.In, Render.helpersAll, Render.componentsAll]

end

end Unbundled.Template
