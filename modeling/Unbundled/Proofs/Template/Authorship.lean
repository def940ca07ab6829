import Unbundled.Proofs.Template.Fidelity
import Unbundled.Proofs.Template.Wording

/-!
# Who has written what

Generated code is made of a few fixed words, generated names, property names, string literals and
what the author has written: expressions and statements with their prefixes, and the parameters of
loops. No fixed word spells a generated name.
-/

namespace Unbundled.Template

open Script (Diagnostic)

/-- The text stands in the template, except for the prefixes of the names it takes from outside. -/
inductive Authored : String → Prop
  | expression {scope : List String} {source text : String}
      (h : prefixedExpression scope source = .ok text) : Authored text
  | statements {scope : List String} {source text : String}
      (h : prefixedStatements scope source = .ok text) : Authored text
  | params {value binder source : String} (h : splitLoop? value = some (binder, source)) :
      Authored (if binder.startsWith "(" then binder else "(" ++ binder ++ ")")

namespace Chunk

/-- All fixed words of generated code. -/
def words : List String :=
  ["(", ")", ", ", "[", "]", ": ", "...(", "\x7b ", " \x7d", "\x7b\x7d", " + ", " = ", " === ",
   " => ", ") ? ", " : ", "() => \x7b\x7d", "$event => (", "$event => \x7b ", "$event",
   "$event.target.checked", "$event.target.value", "$event.target.value.trim()",
   "Number($event.target.value)", "Number($event.target.value.trim())", "null", "true", "() => ",
   "\x7b default: () => ", "[[", "]]", "_ctx.$slots", "  const ", ")\n", "  return ", "\n\x7d\n",
   "export function render(_ctx, _cache) \x7b\n"]

def Proper : Chunk → Prop
  | fixed t => t ∈ words
  | author t => Authored t
  | _ => True

end Chunk

/-- The fixed chunks are words of the list, and the author's are what the author has written. -/
def Plain (cs : List Chunk) : Prop := ∀ c ∈ cs, c.Proper

/-- No fixed word spells a generated name. -/
lemma not_spelt (n : Name) : ∀ w ∈ Chunk.words, ¬ n.text.toList <:+: w.toList := by
  cases n with
  | helper h =>
    have hall : ∀ h ∈ Helper.all, ∀ w ∈ Chunk.words, ¬ h.text.toList <:+: w.toList := by
      decide +kernel
    exact hall h h.mem_all
  | component tag =>
    have hall : ∀ w ∈ Chunk.words, ¬ "_component_".toList <:+: w.toList := by decide +kernel
    intro w hw hspelt
    refine hall w hw (List.IsInfix.trans ?_ hspelt)
    simp only [Name.text, componentBinding, String.toList_append]
    exact List.infix_append_left

/-! ## Lists of chunks -/

@[simp] lemma plain_nil : Plain [] := by simp [Plain]

@[simp] lemma plain_fixed {t : String} {cs : List Chunk} :
    Plain (.fixed t :: cs) ↔ t ∈ Chunk.words ∧ Plain cs := by
  simp [Plain, Chunk.Proper]

@[simp] lemma plain_author {t : String} {cs : List Chunk} :
    Plain (.author t :: cs) ↔ Authored t ∧ Plain cs := by
  simp [Plain, Chunk.Proper]

@[simp] lemma plain_name {n : Name} {cs : List Chunk} : Plain (.name n :: cs) ↔ Plain cs := by
  simp [Plain, Chunk.Proper]

@[simp] lemma plain_key {t : String} {cs : List Chunk} : Plain (.key t :: cs) ↔ Plain cs := by
  simp [Plain, Chunk.Proper]

@[simp] lemma plain_literal {t : String} {cs : List Chunk} :
    Plain (.literal t :: cs) ↔ Plain cs := by
  simp [Plain, Chunk.Proper]

@[simp] lemma plain_append {cs ds : List Chunk} : Plain (cs ++ ds) ↔ Plain cs ∧ Plain ds := by
  simp [Plain, or_imp, forall_and]

lemma plain_separated {sep : String} (hsep : sep ∈ Chunk.words) {items : List (List Chunk)} :
    Plain (separated sep items) ↔ ∀ item ∈ items, Plain item := by
  induction items with
  | nil => simp [separated]
  | cons item items ih =>
    cases items with
    | nil => simp [separated]
    | cons next items => rw [separated, plain_append, plain_fixed, ih]; simp [hsep]

@[simp] lemma plain_commas {items : List (List Chunk)} :
    Plain (separated ", " items) ↔ ∀ item ∈ items, Plain item :=
  plain_separated (by simp [Chunk.words])

@[simp] lemma plain_call {h : Helper} {args : List (List Chunk)} :
    Plain (callChunks h args) ↔ ∀ arg ∈ args, Plain arg := by
  simp [callChunks, Chunk.words]

@[simp] lemma plain_array {items : List (List Chunk)} :
    Plain (arrayChunks items) ↔ ∀ item ∈ items, Plain item := by
  simp [arrayChunks, Chunk.words]

@[simp] lemma plain_literals (texts : List String) : Plain (literalChunks texts) := by
  simp [literalChunks]

/-! ## Properties -/

lemma authored_of_expression {scope : List String} {source text : String}
    (h : expression scope source = .ok text) : Authored text :=
  .expression (expression_eq_ok.1 h)

lemma plain_reading (r : Reading) : Plain (Value.reading r).chunks := by
  cases r with
  | value isTrimmed isNumber =>
    cases isTrimmed <;> cases isNumber <;> simp [Value.chunks, Reading.text, Chunk.words]
  | _ => simp [Value.chunks, Reading.text, Chunk.words]

lemma plain_equal {target : String} {v : Value} (htarget : Authored target)
    (hv : Plain v.chunks) : Plain (Value.equal target v).chunks := by
  simp [Value.chunks, Chunk.words, htarget, hv]

lemma plain_assign {target : String} {v : Value} (htarget : Authored target)
    (hv : Plain v.chunks) : Plain (Value.assign target v).chunks := by
  simp [Value.chunks, Chunk.words, htarget, hv]

lemma chunksAll_eq (vs : List Value) : Value.chunksAll vs = vs.map Value.chunks := by
  induction vs with
  | nil => rfl
  | cons v vs ih => rw [Value.chunksAll, ih, List.map_cons]

lemma plain_handler {scope : List String} {value? : Option String} {v : Value}
    (h : handler scope value? = .ok v) : Plain v.chunks := by
  obtain rfl | ⟨text, htext, rfl⟩ | ⟨text, htext, rfl⟩ | ⟨text, htext, rfl⟩ := handler_cases h
  · simp [Value.chunks, Chunk.words]
  · simp [Value.chunks, authored_of_expression htext]
  · simp [Value.chunks, Chunk.words, Authored.expression htext]
  · simp [Value.chunks, Chunk.words, Authored.statements htext]

lemma plain_guardHandler (modifiers : List String) {v : Value} (hv : Plain v.chunks) :
    Plain (guardHandler modifiers v).chunks := by
  unfold guardHandler
  dsimp only
  split <;> split <;> simp [Value.chunks, hv]

lemma plain_radioValue {scope : List String} {h : Host} {v : Value}
    (hv : radioValue scope h = .ok v) : Plain v.chunks := by
  unfold radioValue at hv
  split at hv
  · obtain ⟨text, htext, rfl⟩ := map_eq_ok.1 hv
    simp [Value.chunks, authored_of_expression htext]
  · cases hv
    simp [Value.chunks]

/-- All values that have been read are plain. -/
structure Props.Proper (p : Props) : Prop where
  entries : ∀ e ∈ p.entries, Plain e.chunks
  classes : ∀ v ∈ p.classes, Plain v.chunks
  styles : ∀ v ∈ p.styles, Plain v.chunks
  events : ∀ e ∈ p.events, Plain e.2.chunks

namespace Props.Proper

variable {p p' : Props} {scope : List String} {h : Host} {name : String} {v : Value}

lemma addEntry (hp : p.Proper) {e : Entry} (he : Plain e.chunks) : (p.addEntry e).Proper :=
  { hp with entries := by simpa [Props.addEntry, or_imp, forall_and] using ⟨hp.entries, he⟩ }

lemma addNamed (hp : p.Proper) (name : String) (hv : Plain v.chunks) :
    (p.addNamed name v).Proper := by
  refine hp.addEntry ?_
  by_cases h : isIdentifier name <;> simp [Entry.chunks, Key.chunks, Chunk.words, h, hv]

lemma addEvent (hp : p.Proper) (key : String) (hv : Plain v.chunks) : (p.addEvent key v).Proper :=
  { hp with
    events := by
      intro e he
      rcases List.mem_append.1 he with he | he
      · exact hp.events e he
      · rw [List.mem_singleton.1 he]
        exact hv }

lemma addProperty (hp : p.Proper) (hv : Plain v.chunks)
    (hadd : p.addProperty scope name v = .ok p') : p'.Proper := by
  have hkey {key : Key} (h : KeyAgrees (keyOfName name) key) : Plain key.chunks := by
    generalize keyOfName name = written at h
    cases h with
    | named name => by_cases h : isIdentifier name <;> simp [Key.chunks, h]
    | computed h =>
      obtain ⟨scope, hscope⟩ := h
      simp [Key.chunks, Chunk.words, authored_of_expression hscope]
  obtain ⟨-, rfl⟩ | ⟨-, rfl⟩ | ⟨-, -, key, hagrees, rfl⟩ := addProperty_cases hadd
  · exact { hp with classes := by simpa [or_imp, forall_and] using ⟨hp.classes, hv⟩ }
  · exact { hp with styles := by simpa [or_imp, forall_and] using ⟨hp.styles, hv⟩ }
  · exact hp.addEntry (by simp [Entry.chunks, Chunk.words, hkey hagrees, hv])

lemma addModel (hp : p.Proper) {value : String} {modifiers : List String}
    (hadd : p.addModel scope h value modifiers = .ok p') : p'.Proper := by
  obtain ⟨target, htarget, name, v, event, w, rfl, hv⟩ := addModel_cases hadd
  have hauthored : Authored target := authored_of_expression htarget
  obtain ⟨rfl, reading, rfl⟩ | ⟨rfl, hown⟩ := hv
  · have hsource : Plain (Value.source target).chunks := by simp [Value.chunks, hauthored]
    exact (hp.addNamed name hsource).addEvent event (plain_assign hauthored (plain_reading _))
  · have hvalue := plain_radioValue hown
    exact (hp.addNamed name (plain_equal hauthored hvalue)).addEvent event
      (plain_assign hauthored hvalue)

lemma add (hp : p.Proper) {a : Markup.Attribute} (hadd : p.add scope h a = .ok p') :
    p'.Proper := by
  have hvalue {text : String} (h : Props.add.valueOf scope h a = .ok text) : Authored text := by
    obtain ⟨source, -, hsource⟩ := bind_eq_ok.1 h
    exact authored_of_expression hsource
  unfold Props.add at hadd
  split at hadd
  · cases hadd
    exact hp
  · obtain ⟨text, htext, hadd⟩ := bind_eq_ok.1 hadd
    cases hadd
    exact hp.addNamed _ (by simp [Value.chunks, hvalue htext])
  · obtain ⟨text, htext, hadd⟩ := bind_eq_ok.1 hadd
    cases hadd
    exact hp.addNamed _ (by simp [Value.chunks, hvalue htext])
  · obtain ⟨text, htext, hadd⟩ := bind_eq_ok.1 hadd
    cases hadd
    exact hp.addEntry (by simp [Entry.chunks, Chunk.words, hvalue htext])
  · obtain ⟨value, -, hadd⟩ := bind_eq_ok.1 hadd
    exact hp.addModel hadd
  · obtain ⟨source, hsource, hadd⟩ := bind_eq_ok.1 hadd
    exact hp.addProperty (by simp [Value.chunks, authored_of_expression hsource]) hadd
  · dsimp only at hadd
    split at hadd
    · cases hadd
    · obtain ⟨v, hv, hadd⟩ := bind_eq_ok.1 hadd
      cases hadd
      exact hp.addEvent _ (plain_guardHandler _ (plain_handler hv))
  · cases hadd
  · exact hp.addProperty (by simp [Value.chunks]) hadd

lemma foldlM (hp : p.Proper) {as : List Markup.Attribute}
    (hfold : as.foldlM (Props.add scope h) p = .ok p') : p'.Proper := by
  induction as generalizing p with
  | nil =>
    cases hfold
    exact hp
  | cons a as ih =>
    rw [List.foldlM_cons] at hfold
    obtain ⟨q, hq, hrest⟩ := bind_eq_ok.1 hfold
    exact ih (hp.add hq) hrest

end Props.Proper

lemma plain_mergedEntry (name : String) {vs : List Value} (hvs : ∀ v ∈ vs, Plain v.chunks) :
    ∀ e ∈ mergedEntry name vs, Plain e.chunks := by
  have hmerged : Plain (mergedValue vs).chunks := by
    unfold mergedValue
    split
    · simpa using hvs
    · simpa [Value.chunks, chunksAll_eq] using hvs
  unfold mergedEntry
  split
  · simp
  · by_cases h : isIdentifier name <;>
      simp [Entry.chunks, Key.chunks, Chunk.words, h, hmerged]

theorem plain_properties {scope : List String} {h : Host} {es : List Entry}
    (hes : properties scope h = .ok es) : ∀ e ∈ es, Plain e.chunks := by
  obtain ⟨p, hfold, rfl⟩ := map_eq_ok.1 hes
  have hempty : Props.Proper {} := ⟨by simp, by simp, by simp, by simp⟩
  have hp := hempty.foldlM hfold
  intro e he
  simp only [Props.toEntries, List.mem_append, List.mem_flatMap] at he
  obtain ((he | he) | he) | ⟨g, hg, he⟩ := he
  · exact hp.entries e he
  · exact plain_mergedEntry _ hp.classes e he
  · exact plain_mergedEntry _ hp.styles e he
  · obtain ⟨key, -, rfl⟩ := List.mem_map.1 hg
    refine plain_mergedEntry _ (fun v hv => ?_) e he
    obtain ⟨event, hevent, rfl⟩ := List.mem_map.1 hv
    exact hp.events event (List.mem_filter.1 hevent).1

/-! ## Nodes -/

namespace Render

/-- The expression for the node is plain. -/
def Proper (r : Render) : Prop := Plain r.shape.chunks

lemma plain_shapes {rs : List Render} (h : ∀ r ∈ rs, r.Proper) :
    ∀ item ∈ Shape.chunksAll (shapes rs), Plain item := by
  induction rs with
  | nil => simp [shapes, Shape.chunksAll]
  | cons r rs ih =>
    have hr : r.Proper := h r (by simp)
    have hrs := ih fun s hs => h s (by simp [hs])
    intro item hitem
    rw [shapes, Shape.chunksAll, List.mem_cons] at hitem
    rcases hitem with rfl | hitem
    · exact hr
    · exact hrs item hitem

lemma plain_props {es : List Entry} (h : ∀ e ∈ es, Plain e.chunks) :
    ∀ cs, propsChunks? es = some cs → Plain cs := by
  cases es with
  | nil => simp [propsChunks?]
  | cons e es => simpa [propsChunks?, Chunk.words] using h

lemma plain_children (tag : Tag) {rs : List Render} (h : ∀ r ∈ rs, r.Proper) :
    ∀ cs, Shape.chunksOption (childrenShape? tag rs) = some cs → Plain cs := by
  intro cs hcs
  cases rs with
  | nil =>
    cases tag with
    | fragment =>
      cases hcs
      simp [Shape.chunks, Shape.chunksAll]
    | _ => cases hcs
  | cons r rs =>
    have hitems := plain_shapes h
    have harray : Plain (Shape.array (shapes (r :: rs))).chunks := by
      simpa [Shape.chunks] using hitems
    unfold childrenShape? at hcs
    split at hcs
    · cases hcs
      have hrun := h _ List.mem_cons_self
      simpa [Proper, shape, Shape.chunks] using hrun
    · cases hcs
      simpa [Shape.chunks, Chunk.words, shapes] using hitems
    · cases hcs
      exact harray

lemma plain_fallback {rs : List Render} (h : ∀ r ∈ rs, r.Proper) :
    ∀ cs, Shape.chunksOption (fallbackShape? rs) = some cs → Plain cs := by
  intro cs hcs
  cases rs with
  | nil => cases hcs
  | cons r rs =>
    cases hcs
    simpa [Shape.chunks, Chunk.words, shapes] using plain_shapes h

lemma plain_vnode {tag : List Chunk} {props? children? : Option (List Chunk)} (htag : Plain tag)
    (hprops : ∀ cs, props? = some cs → Plain cs)
    (hchildren : ∀ cs, children? = some cs → Plain cs) :
    Plain (vnodeChunks tag props? children?) := by
  unfold vnodeChunks
  rw [plain_call]
  cases props? <;> cases children? <;> simp_all [Chunk.words]

lemma proper_vnode {tag : Tag} {es : List Entry} {rs : List Render}
    (hes : ∀ e ∈ es, Plain e.chunks) (hrs : ∀ r ∈ rs, r.Proper) : (vnode tag es rs).Proper := by
  have htag : Plain tag.chunks := by cases tag <;> simp [Tag.chunks]
  rw [Proper, shape, Shape.chunks]
  exact plain_vnode htag (plain_props hes) (plain_children tag hrs)

lemma proper_slot {name : String} {es : List Entry} {rs : List Render}
    (hes : ∀ e ∈ es, Plain e.chunks) (hrs : ∀ r ∈ rs, r.Proper) : (slot name es rs).Proper := by
  have hargs {props? below : Option (List Chunk)} (hprops : ∀ cs, props? = some cs → Plain cs)
      (hbelow : ∀ cs, below = some cs → Plain cs) :
      ∀ arg ∈ Shape.slotArgChunks props? below, Plain arg := by
    cases props? <;> cases below <;> simp_all [Shape.slotArgChunks, Chunk.words]
  rw [Proper, shape, Shape.chunks, plain_call]
  simpa [Chunk.words] using hargs (plain_props hes) (plain_fallback hrs)

lemma proper_loop {source params : String} {item : Render} (hsource : Authored source)
    (hparams : Authored params) (hitem : item.Proper) : (loop source params item).Proper := by
  rw [Proper] at hitem ⊢
  refine plain_vnode (by simp [Tag.chunks]) (by simp [propsChunks?]) fun cs hcs => ?_
  cases hcs
  simp [Shape.chunks, Chunk.words, hsource, hparams, hitem]

lemma proper_conditional {test : String} {yes no : Render} (htest : Authored test)
    (hyes : yes.Proper) (hno : no.Proper) : (conditional test yes no).Proper := by
  rw [Proper] at hyes hno ⊢
  simp [shape, Shape.chunks, Chunk.words, htest, hyes, hno]

lemma proper_placeholder : placeholder.Proper := by
  simp [Proper, shape, Shape.chunks, Chunk.words]

lemma proper_shown {condition : String} {node : Render} (hcondition : Authored condition)
    (hnode : node.Proper) : (shown condition node).Proper := by
  rw [Proper] at hnode ⊢
  simp [shape, Shape.chunks, Chunk.words, hcondition, hnode]

lemma proper_text {parts : List TextPart} (h : ∀ part ∈ parts, Plain part.chunks) :
    (text parts).Proper := by
  have hrun : Plain (runChunks parts) := by
    rw [runChunks, plain_separated (by simp [Chunk.words])]
    simpa using h
  simp [Proper, shape, Shape.chunks, hrun]

end Render

/-! ## Siblings -/

/-- Where rendering the piece succeeds, its expression is plain. -/
def Piece.Proper : Piece → Prop
  | text _ part => ∀ p, part = .ok p → Plain p.chunks
  | element b => ∀ r, b.result = .ok r → r.Proper

lemma conditions_proper {scope : List String} {bs : List Branch} {no r : Render}
    (hbs : ∀ b ∈ bs, (Piece.element b).Proper) (hno : no.Proper)
    (hr : bs.foldrM (Branch.over scope) no = .ok r) : r.Proper := by
  induction bs generalizing r with
  | nil =>
    cases hr
    exact hno
  | cons b bs ih =>
    rw [List.foldrM_cons] at hr
    obtain ⟨rest, hrest, hr⟩ := bind_eq_ok.1 hr
    obtain ⟨test, yes, htest, hyes, rfl⟩ := over_eq_ok.1 hr
    obtain ⟨source, hsource⟩ := condition_cases htest
    exact Render.proper_conditional (authored_of_expression hsource) (hbs b (by simp) yes hyes)
      (ih (fun c hc => hbs c (by simp [hc])) hrest)

lemma conditionalOf_proper {scope : List String} {bs : List Branch} {r : Render}
    (hbs : ∀ b ∈ bs, (Piece.element b).Proper) (hr : conditionalOf scope bs = .ok r) :
    r.Proper := by
  obtain hr | ⟨init, last, no, rfl, hno, hr⟩ := conditionalOf_cases hr
  · exact conditions_proper hbs Render.proper_placeholder hr
  · exact conditions_proper (fun b hb => hbs b (by simp [hb])) (hbs last (by simp) no hno) hr

lemma run_proper {parts : List (Except Diagnostic TextPart)} {ts : List TextPart}
    (hparts : ∀ part ∈ parts, ∀ t, part = .ok t → Plain t.chunks)
    (hts : parts.mapM id = .ok ts) : ∀ t ∈ ts, Plain t.chunks := by
  induction parts generalizing ts with
  | nil =>
    cases hts
    simp
  | cons part parts ih =>
    rw [List.mapM_cons] at hts
    obtain ⟨t, ht, hts⟩ := bind_eq_ok.1 hts
    obtain ⟨us, hus, hts⟩ := bind_eq_ok.1 hts
    cases hts
    exact List.forall_mem_cons.2 ⟨hparts part (by simp) t ht,
      ih (fun q hq => hparts q (by simp [hq])) hus⟩

theorem assemble_proper {scope : List String} {ps : List Piece} {rs : List Render}
    (hps : ∀ p ∈ ps, p.Proper) (hrs : assemble scope ps = .ok rs) : ∀ r ∈ rs, r.Proper := by
  fun_induction assemble scope ps generalizing rs with
  | case1 =>
    cases hrs
    simp
  | case2 blank part ps run =>
    rename_i ih
    obtain ⟨parts, hparts, hrs⟩ := bind_eq_ok.1 hrs
    obtain ⟨below, hbelow, hrs⟩ := bind_eq_ok.1 hrs
    cases hrs
    have hrun : ∀ t ∈ parts, Plain t.chunks := by
      refine run_proper (fun part hpart => ?_) hparts
      obtain ⟨blank', hmem⟩ := text_mem_of_run hpart
      exact hps _ hmem
    have hrest : ∀ p ∈ ps.dropWhile Piece.isText, p.Proper := fun p hp =>
      hps p (List.mem_cons_of_mem _ (List.dropWhile_subset _ hp))
    exact List.forall_mem_cons.2 ⟨Render.proper_text hrun, ih hrest hbelow⟩
  | case3 b ps hif hlt ih =>
    obtain ⟨node, hnode, hrs⟩ := bind_eq_ok.1 hrs
    obtain ⟨below, hbelow, hrs⟩ := bind_eq_ok.1 hrs
    cases hrs
    simp only [List.forall_mem_cons] at hps
    obtain ⟨hbs, hafter⟩ := forall_takeBranches [] ps (by simp) hps.2
    exact List.forall_mem_cons.2
      ⟨conditionalOf_proper (List.forall_mem_cons.2 ⟨hps.1, hbs⟩) hnode, ih hafter hbelow⟩
  | case4 => cases hrs
  | case5 b ps hif hcontinues ih =>
    obtain ⟨node, hnode, hrs⟩ := bind_eq_ok.1 hrs
    obtain ⟨below, hbelow, hrs⟩ := bind_eq_ok.1 hrs
    cases hrs
    simp only [List.forall_mem_cons] at hps
    exact List.forall_mem_cons.2 ⟨hps.1 node hnode, ih hps.2 hbelow⟩

/-! ## Elements -/

lemma withShow_proper {scope : List String} {h : Host} {node r : Render} (hnode : node.Proper)
    (hr : withShow scope h node = .ok r) : r.Proper := by
  obtain rfl | ⟨source, condition, hcondition, rfl⟩ := withShow_cases hr
  · exact hnode
  · exact Render.proper_shown (authored_of_expression hcondition) hnode

lemma elementRender_proper {scope : List String} {h : Host}
    {below : Except Diagnostic (List Render)} {r : Render}
    (hbelow : ∀ rs, below = .ok rs → ∀ s ∈ rs, s.Proper)
    (hr : elementRender scope h below = .ok r) : r.Proper := by
  obtain ⟨-, rs, hrs, rfl⟩ | ⟨-, props, rs, hprops, hrs, rfl⟩ |
    ⟨-, -, props, children, hprops, hchildren, hr⟩ := elementRender_cases hr
  · exact Render.proper_vnode (by simp) (hbelow rs hrs)
  · exact Render.proper_slot (plain_properties hprops) (hbelow rs hrs)
  · have hproper : ∀ s ∈ children, s.Proper := by
      split at hchildren
      · simp [hchildren]
      · exact hbelow children hchildren
    exact withShow_proper (Render.proper_vnode (plain_properties hprops) hproper) hr

lemma loopOf_authored {scope : List String} {h : Host} {l : Loop}
    (hl : loopOf scope h = .ok (some l)) : Authored l.source ∧ Authored l.params := by
  unfold loopOf at hl
  split at hl
  · cases hl
  · obtain ⟨l', hl', heq⟩ := map_eq_ok.1 hl
    cases heq
    obtain ⟨binder, source, hsplit, hsource, -, hparams⟩ := ofValue_cases hl'
    rw [hparams]
    exact ⟨authored_of_expression hsource, .params hsplit⟩

lemma loopedRender_proper {scope : List String} {h : Host}
    {below : Except Diagnostic (List Render)} {r : Render}
    (hbelow : ∀ rs, below = .ok rs → ∀ s ∈ rs, s.Proper)
    (hr : loopedRender scope h (loopOf scope h) below = .ok r) : r.Proper := by
  obtain ⟨-, hr⟩ | ⟨l, item, hloop, hitem, rfl⟩ := loopedRender_cases hr
  · exact elementRender_proper hbelow hr
  · obtain ⟨hsource, hparams⟩ := loopOf_authored hloop
    exact Render.proper_loop hsource hparams (elementRender_proper hbelow hitem)

mutual

theorem proper_toPiece (scope : List String) : (n : Node) → (n.toPiece scope).Proper
  | .text s => by
    rintro part ⟨⟩
    simp [TextPart.chunks]
  | .interpolation source => by
    intro part hpart
    obtain ⟨text, htext, rfl⟩ := map_eq_ok.1 hpart
    simp [TextPart.chunks, authored_of_expression htext]
  | .element tag as cs => fun _ hr =>
    loopedRender_proper (fun _ hrs => assemble_proper (proper_toPieces _ cs) hrs) hr

theorem proper_toPieces (scope : List String) :
    (ns : List Node) → ∀ p ∈ Node.toPieces scope ns, p.Proper
  | [] => by simp [Node.toPieces]
  | n :: ns => List.forall_mem_cons.2 ⟨proper_toPiece scope n, proper_toPieces scope ns⟩

end

/-- What a template becomes is made of fixed words, of names and literals, and of what the author
has written. -/
theorem proper_ofNodes {roots : List Node} {rs : List Render}
    (hrs : Render.ofNodes roots = .ok rs) : ∀ r ∈ rs, r.Proper :=
  assemble_proper (proper_toPieces [] roots) hrs

end Unbundled.Template
