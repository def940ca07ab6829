import Unbundled.Proofs.Success
import Unbundled.Template.Compile

/-!
# What a successful step has done

Each lemma lists the ways in which one function of the generator can succeed, with what it has
computed on the way. Properties of generated code are proved from these lists.
-/

namespace Unbundled.Template

open Script (Diagnostic)

variable {scope : List String} {h : Host} {r : Render}

lemma expression_eq_ok {source text : String} :
    expression scope source = .ok text ↔ prefixedExpression scope source = .ok text := by
  unfold expression
  cases prefixedExpression scope source <;> simp

/-- A handler does nothing, is taken as it is, or is run on the event. -/
lemma handler_cases {value? : Option String} {v : Value} (hv : handler scope value? = .ok v) :
    v = .idle ∨
    (∃ text, expression scope (Text.trim (value?.getD "")) = .ok text ∧ v = .source text) ∨
    (∃ text, prefixedExpression (scope ++ ["$event"]) (Text.trim (value?.getD "")) = .ok text ∧
      v = .onEvent text) ∨
    ∃ text, prefixedStatements (scope ++ ["$event"]) (Text.trim (value?.getD "")) = .ok text ∧
      v = .onEventBlock text := by
  unfold handler at hv
  dsimp only at hv
  split at hv
  · cases hv
    exact .inl rfl
  split at hv
  · obtain ⟨text, htext, rfl⟩ := map_eq_ok.1 hv
    exact .inr (.inl ⟨text, htext, rfl⟩)
  split at hv
  next text htext =>
    cases hv
    exact .inr (.inr (.inl ⟨text, htext, rfl⟩))
  split at hv
  next text htext =>
    cases hv
    exact .inr (.inr (.inr ⟨text, htext, rfl⟩))
  next => cases hv

/-- The properties of `p`, followed by those of `q`. -/
def Props.append (p q : Props) : Props where
  entries := p.entries ++ q.entries
  classes := p.classes ++ q.classes
  styles := p.styles ++ q.styles
  events := p.events ++ q.events

namespace Props

lemma eq_empty_iff (p : Props) :
    p = {} ↔ p.entries = [] ∧ p.classes = [] ∧ p.styles = [] ∧ p.events = [] := by
  cases p
  simp

lemma append_empty (p : Props) : p.append {} = p := by simp [append]

lemma append_entry (p : Props) (e : Entry) : p.append { entries := [e] } = p.addEntry e := by
  simp [append, addEntry]

lemma append_event (p : Props) (key : String) (v : Value) :
    p.append { events := [(key, v)] } = p.addEvent key v := by
  simp [append, addEvent]

lemma append_entry_event (p : Props) (e : Entry) (key : String) (v : Value) :
    p.append { entries := [e], events := [(key, v)] } = (p.addEntry e).addEvent key v := by
  simp [append, addEntry, addEvent]

end Props

/-- The share of a property with the value `v`: the classes and the styles are kept apart. -/
inductive Assigns (scope : List String) (v : Value) : String → Props → Prop
  | classPart : Assigns scope v "class" { classes := [v] }
  | stylePart : Assigns scope v "style" { styles := [v] }
  | entry {name : String} {key : Key} (hclass : name ≠ "class") (hstyle : name ≠ "style")
      (hkey : propertyKey scope name = .ok key) :
      Assigns scope v name { entries := [.property key v] }

lemma addProperty_eq_ok {p p' : Props} {name : String} {v : Value} :
    p.addProperty scope name v = .ok p' ↔
      ∃ share, Assigns scope v name share ∧ p' = p.append share := by
  constructor
  · intro hp
    unfold Props.addProperty at hp
    split at hp
    · cases hp
      exact ⟨_, .classPart, by simp [Props.append]⟩
    · cases hp
      exact ⟨_, .stylePart, by simp [Props.append]⟩
    · next hclass hstyle =>
      obtain ⟨key, hkey, rfl⟩ := map_eq_ok.1 hp
      exact ⟨_, .entry hclass hstyle hkey, (p.append_entry _).symm⟩
  · rintro ⟨share, hshare, rfl⟩
    cases hshare with
    | classPart => simp [Props.addProperty, Props.append]
    | stylePart => simp [Props.addProperty, Props.append]
    | entry hclass hstyle hkey =>
      unfold Props.addProperty
      split
      · exact absurd rfl hclass
      · exact absurd rfl hstyle
      · rw [hkey, p.append_entry]
        rfl

/-- The kind of a form element, as its attribute says. -/
def Host.inputType (h : Host) : String := (h.value? "type").getD "text"

/-- A binding of `target` in both directions: the property that shows it, the event, and what is
assigned on the event. -/
inductive Models (scope : List String) (h : Host) (target : String) (modifiers : List String) :
    String → Value → String → Value → Prop
  | component (hcomponent : h.isComponent = true) :
      Models scope h target modifiers "modelValue" (.source target)
        "onUpdate:modelValue" (.reading .payload)
  | checkbox (hcomponent : h.isComponent = false) (htag : h.tag = "input")
      (htype : h.inputType = "checkbox") :
      Models scope h target modifiers "checked" (.source target) "onChange" (.reading .checked)
  | radio {own : Value} (hcomponent : h.isComponent = false) (htag : h.tag = "input")
      (htype : h.inputType = "radio") (hown : radioValue scope h = .ok own) :
      Models scope h target modifiers "checked" (.equal target own) "onChange" own
  | field (hcomponent : h.isComponent = false) (htag : h.tag ∈ ["input", "textarea", "select"])
      (htype : h.tag = "input" → h.inputType ≠ "checkbox" ∧ h.inputType ≠ "radio") :
      Models scope h target modifiers "value" (.source target)
        (if h.tag = "select" ∨ "lazy" ∈ modifiers then "onChange" else "onInput")
        (.reading (.value (modifiers.contains "trim") (modifiers.contains "number")))

lemma addModel_eq_ok {p p' : Props} {value : String} {modifiers : List String} :
    p.addModel scope h value modifiers = .ok p' ↔
      isSimplePath (Text.trim value) = true ∧ ∃ target name v event w,
        expression scope (Text.trim value) = .ok target ∧
        Models scope h target modifiers name v event w ∧
        p' = (p.addNamed name v).addEvent event (.assign target w) := by
  constructor
  · intro hp
    unfold Props.addModel at hp
    dsimp only at hp
    split at hp
    case isFalse => cases hp
    case isTrue hpath =>
    obtain ⟨target, htarget, hp⟩ := bind_eq_ok.1 hp
    refine ⟨hpath, target, ?_⟩
    split at hp
    next hcomponent =>
      cases hp
      exact ⟨_, _, _, _, htarget, .component hcomponent, rfl⟩
    next hcomponent =>
    have hcomponent := Bool.eq_false_iff.2 hcomponent
    split at hp
    next hbox =>
      simp only [Bool.and_eq_true, decide_eq_true_eq] at hbox
      cases hp
      exact ⟨_, _, _, _, htarget, .checkbox hcomponent hbox.1 hbox.2, rfl⟩
    next hbox =>
    split at hp
    next hradio =>
      simp only [Bool.and_eq_true, decide_eq_true_eq] at hradio
      obtain ⟨own, hown, hp⟩ := bind_eq_ok.1 hp
      cases hp
      exact ⟨_, _, _, _, htarget, .radio hcomponent hradio.1 hradio.2 hown, rfl⟩
    next hradio =>
    split at hp
    next htag =>
      have htype : h.tag = "input" → h.inputType ≠ "checkbox" ∧ h.inputType ≠ "radio" := by
        simp only [Bool.and_eq_true, decide_eq_true_eq, not_and] at hbox hradio
        exact fun htag => ⟨hbox htag, hradio htag⟩
      cases hp
      refine ⟨_, _, _, _, htarget, .field hcomponent (List.contains_iff_mem.1 htag) htype, ?_⟩
      simp
    next => cases hp
  · rintro ⟨hpath, target, name, v, event, w, htarget, hmodel, rfl⟩
    unfold Props.addModel
    rw [if_pos hpath]
    cases hmodel with
    | component hcomponent =>
      simp [htarget, hcomponent, bind, Except.bind, pure, Except.pure]
    | checkbox hcomponent htag htype =>
      rw [Host.inputType] at htype
      simp [htarget, hcomponent, htag, htype, bind, Except.bind, pure, Except.pure]
    | radio hcomponent htag htype hown =>
      rw [Host.inputType] at htype
      simp [htarget, hcomponent, htag, htype, hown, bind, Except.bind, pure, Except.pure]
    | field hcomponent htag htype =>
      simp only [Host.inputType] at htype
      have hbox : ¬(h.tag = "input" ∧ (h.value? "type").getD "text" = "checkbox") :=
        fun hb => (htype hb.1).1 hb.2
      have hradio : ¬(h.tag = "input" ∧ (h.value? "type").getD "text" = "radio") :=
        fun hb => (htype hb.1).2 hb.2
      simp [htarget, hcomponent, htag, hbox, hradio, bind, Except.bind, pure, Except.pure]

/-- A binding in both directions adds a property and a listener that assigns. A radio button is
compared with its own value and assigns it, everything else is read from the event. -/
lemma addModel_cases {p p' : Props} {value : String} {modifiers : List String}
    (hp : p.addModel scope h value modifiers = .ok p') :
    ∃ target, expression scope (Text.trim value) = .ok target ∧ ∃ name v event w,
      p' = (p.addNamed name v).addEvent event (.assign target w) ∧
      ((v = .source target ∧ ∃ reading, w = .reading reading) ∨
        (v = .equal target w ∧ radioValue scope h = .ok w)) := by
  obtain ⟨-, target, name, v, event, w, htarget, hmodel, rfl⟩ := addModel_eq_ok.1 hp
  refine ⟨target, htarget, name, v, event, w, rfl, ?_⟩
  cases hmodel with
  | component | checkbox | field => exact .inl ⟨rfl, _, rfl⟩
  | radio _ _ _ hown => exact .inr ⟨rfl, hown⟩

/-- A node stays as it is or is hidden while a condition fails. -/
lemma withShow_cases {node : Render} (hr : withShow scope h node = .ok r) :
    r = node ∨ ∃ source condition, expression scope source = .ok condition ∧
      r = .shown condition node := by
  unfold withShow at hr
  split at hr
  · cases hr
    exact .inl rfl
  · split at hr
    · cases hr
    next source _ =>
      obtain ⟨condition, hcondition, hr⟩ := bind_eq_ok.1 hr
      cases hr
      exact .inr ⟨source, condition, hcondition, rfl⟩

/-- A directive of the element takes the place of its children. -/
def Host.isFilled (h : Host) : Bool :=
  (h.attribute? "v-html").isSome || (h.attribute? "v-text").isSome

def Host.tagged (h : Host) : Tag := if h.isComponent then .component h.tag else .element h.tag

/-- An element is a group, a slot, or a node with properties and with children of its own. -/
lemma elementRender_cases {below : Except Diagnostic (List Render)}
    (hr : elementRender scope h below = .ok r) :
    (h.tag = "template" ∧ ∃ rs, below = .ok rs ∧ r = .vnode .fragment [] rs) ∨
    (h.tag = "slot" ∧ ∃ props rs,
      properties scope ⟨h.tag, false, h.attributes.filter (·.name != "name")⟩ = .ok props ∧
      below = .ok rs ∧ r = .slot ((h.value? "name").getD "default") props rs) ∨
    (h.tag ≠ "template" ∧ h.tag ≠ "slot" ∧ ∃ props children, properties scope h = .ok props ∧
      (if h.isFilled then children = [] else below = .ok children) ∧
      withShow scope h (.vnode h.tagged props children) = .ok r) := by
  unfold elementRender at hr
  split at hr
  next htag =>
    obtain ⟨rs, hrs, hr⟩ := bind_eq_ok.1 hr
    cases hr
    exact .inl ⟨htag, rs, hrs, rfl⟩
  next htag =>
    obtain ⟨props, hprops, hr⟩ := bind_eq_ok.1 hr
    obtain ⟨rs, hrs, hr⟩ := bind_eq_ok.1 hr
    cases hr
    exact .inr (.inl ⟨htag, props, rs, hprops, hrs, rfl⟩)
  next => cases hr
  next htemplate hslot _ =>
    obtain ⟨props, hprops, hr⟩ := bind_eq_ok.1 hr
    refine .inr (.inr ⟨htemplate, hslot, props, ?_⟩)
    dsimp only at hr
    split at hr
    next hfilled =>
      obtain ⟨children, hchildren, hr⟩ := bind_eq_ok.1 hr
      cases hchildren
      exact ⟨[], hprops, by rw [Host.isFilled, if_pos hfilled], hr⟩
    next hfilled =>
      obtain ⟨children, hchildren, hr⟩ := bind_eq_ok.1 hr
      exact ⟨children, hprops, by rwa [Host.isFilled, if_neg hfilled], hr⟩

/-- An element stands alone or inside its loop. -/
lemma loopedRender_cases {loop? : Except Diagnostic (Option Loop)}
    {below : Except Diagnostic (List Render)} (hr : loopedRender scope h loop? below = .ok r) :
    (loop? = .ok none ∧ elementRender scope h below = .ok r) ∨
    ∃ l item, loop? = .ok (some l) ∧ elementRender (scope ++ l.names) h below = .ok item ∧
      r = .loop l.source l.params item := by
  obtain ⟨loop?, hloop, hr⟩ := bind_eq_ok.1 hr
  cases loop? with
  | none => exact .inl ⟨hloop, hr⟩
  | some l =>
    obtain ⟨item, hitem, hr⟩ := bind_eq_ok.1 hr
    cases hr
    exact .inr ⟨l, item, hloop, hitem, rfl⟩

/-- A loop has a scoped source and the parameters and names of its alias. -/
lemma ofValue_cases {value : String} {l : Loop} (hl : Loop.ofValue scope value = .ok l) :
    ∃ binder source, splitLoop? value = some (binder, source) ∧
      expression scope source = .ok l.source ∧ aliasNames binder = .ok l.names ∧
      l.params = if binder.startsWith "(" then binder else "(" ++ binder ++ ")" := by
  unfold Loop.ofValue at hl
  split at hl
  · cases hl
  next binder source hsplit =>
  obtain ⟨text, htext, hl⟩ := bind_eq_ok.1 hl
  obtain ⟨names, hnames, hl⟩ := bind_eq_ok.1 hl
  cases hl
  exact ⟨binder, source, hsplit, htext, hnames, rfl⟩

lemma condition_cases {b : Branch} {test : String} (h : b.condition scope = .ok test) :
    ∃ source, expression scope source = .ok test := by
  unfold Branch.condition at h
  dsimp only at h
  split at h
  next source _ => exact ⟨source, h⟩
  next => cases h

/-- The branch over what is chosen where its condition fails. -/
def Branch.over (scope : List String) (b : Branch) (no : Render) : Except Diagnostic Render := do
  let test ← b.condition scope
  let yes ← b.result
  return .conditional test yes no

lemma over_eq_ok {b : Branch} {no : Render} : b.over scope no = .ok r ↔
    ∃ test yes, b.condition scope = .ok test ∧ b.result = .ok yes ∧
      r = .conditional test yes no := by
  constructor
  · intro hr
    obtain ⟨test, htest, hr⟩ := bind_eq_ok.1 hr
    obtain ⟨yes, hyes, hr⟩ := bind_eq_ok.1 hr
    cases hr
    exact ⟨test, yes, htest, hyes, rfl⟩
  · rintro ⟨test, yes, htest, hyes, rfl⟩
    simp [Branch.over, htest, hyes]
    rfl

/-- A chain ends with a branch that has no condition, or with nothing. -/
lemma conditionalOf_cases {bs : List Branch} (hr : conditionalOf scope bs = .ok r) :
    bs.foldrM (Branch.over scope) .placeholder = .ok r ∨
    ∃ init last no, bs = init ++ [last] ∧ last.result = .ok no ∧
      init.foldrM (Branch.over scope) no = .ok r := by
  rcases List.eq_nil_or_concat bs with rfl | ⟨init, last, rfl⟩
  · exact .inl hr
  rw [List.concat_eq_append] at hr ⊢
  simp only [conditionalOf, List.getLast?_concat, List.dropLast_concat] at hr
  by_cases helse : last.has "v-else"
  · rw [if_pos helse] at hr
    obtain ⟨no, hno, hr⟩ := bind_eq_ok.1 hr
    exact .inr ⟨init, last, no, rfl, hno, hr⟩
  · rw [if_neg helse] at hr
    exact .inl hr

/-- The parts of a run of texts are those of siblings. -/
lemma text_mem_of_run {blank : Bool} {part q : Except Diagnostic TextPart} {ps : List Piece}
    (h : q ∈ (Piece.text blank part :: ps.takeWhile Piece.isText).filterMap Piece.part?) :
    ∃ blank', Piece.text blank' q ∈ Piece.text blank part :: ps := by
  obtain ⟨p, hp, hpart⟩ := List.mem_filterMap.1 h
  have hmem : p ∈ Piece.text blank part :: ps :=
    List.cons_subset_cons _ (List.takeWhile_subset _) hp
  cases p with
  | text blank' q' =>
    cases hpart
    exact ⟨blank', hmem⟩
  | element b => cases hpart

/-- A chain and what follows it come from the siblings, or from the blanks that were passed. -/
lemma forall_takeBranches {P : Piece → Prop} (blanks ps : List Piece) (hblanks : ∀ p ∈ blanks, P p)
    (hps : ∀ p ∈ ps, P p) :
    (∀ b ∈ (takeBranches blanks ps).1, P (.element b)) ∧ ∀ p ∈ (takeBranches blanks ps).2, P p := by
  fun_induction takeBranches blanks ps with
  | case1 blanks => exact ⟨by simp, hblanks⟩
  | case2 blanks part ps ih =>
    simp only [List.forall_mem_cons] at hps
    refine ih (fun p hp => ?_) hps.2
    rcases List.mem_append.1 hp with hp | hp
    · exact hblanks p hp
    · rw [List.mem_singleton.1 hp]
      exact hps.1
  | case3 blanks part ps => exact ⟨by simp, List.forall_mem_append.2 ⟨hblanks, hps⟩⟩
  | case4 blanks b ps => exact ⟨by simp, List.forall_mem_append.2 ⟨hblanks, hps⟩⟩
  | case5 blanks b ps =>
    simp only [List.forall_mem_cons] at hps
    exact ⟨by simpa using hps.1, hps.2⟩
  | case6 blanks b ps _ _ bs rest hrest ih =>
    simp only [List.forall_mem_cons] at hps
    rw [hrest] at ih
    obtain ⟨hbs, hafter⟩ := ih (by simp) hps.2
    exact ⟨List.forall_mem_cons.2 ⟨hps.1, hbs⟩, hafter⟩

/-- A module is generated from what the roots become. -/
lemma generate_eq_ok {roots : List Node} {code : String} :
    generate roots = .ok code ↔
      ∃ rs, Render.ofNodes roots = .ok rs ∧ moduleText (rootOf rs) = code :=
  map_eq_ok

end Unbundled.Template
