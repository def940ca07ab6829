import Unbundled.Proofs.Template.Declarations
import Unbundled.Proofs.Text.Split

/-!
# Templates that are refused

Where the generator fails, it reports a parse error. It fails on every directive that it does not
know, wherever code is generated for the element.
-/

namespace Unbundled.Template

open Script (Diagnostic)

/-- Where the computation fails, a parse error is reported. -/
def ReportsParse {α : Type} (x : Except Diagnostic α) : Prop :=
  ∀ d, x = .error d → d.phase = .parse

namespace ReportsParse

variable {α β : Type} {x : Except Diagnostic α}

lemma ok (a : α) : ReportsParse (.ok a) := by
  rintro d ⟨⟩

lemma error (message : String) :
    ReportsParse (.error (.parseError message) : Except Diagnostic α) := by
  rintro d ⟨⟩
  rfl

lemma bind {f : α → Except Diagnostic β} (hx : ReportsParse x) (hf : ∀ a, ReportsParse (f a)) :
    ReportsParse (x >>= f) := by
  cases x with
  | error e =>
    rintro d ⟨⟩
    exact hx e rfl
  | ok a => exact hf a

lemma map (hx : ReportsParse x) (f : α → β) : ReportsParse (x.map f) := by
  cases x with
  | error e =>
    rintro d ⟨⟩
    exact hx e rfl
  | ok a => exact ok _

lemma foldlM {f : β → α → Except Diagnostic β} (hf : ∀ b a, ReportsParse (f b a)) (as : List α)
    (b : β) : ReportsParse (as.foldlM f b) := by
  induction as generalizing b with
  | nil => exact ok b
  | cons a as ih =>
    rw [List.foldlM_cons]
    exact (hf b a).bind ih

lemma foldrM {f : α → β → Except Diagnostic β} {as : List α}
    (hf : ∀ a ∈ as, ∀ b, ReportsParse (f a b)) (b : β) : ReportsParse (as.foldrM f b) := by
  induction as with
  | nil => exact ok b
  | cons a as ih =>
    obtain ⟨hfirst, hlater⟩ := List.forall_mem_cons.1 hf
    rw [List.foldrM_cons]
    exact (ih hlater).bind hfirst

lemma mapM {xs : List (Except Diagnostic α)} (hxs : ∀ x ∈ xs, ReportsParse x) :
    ReportsParse (xs.mapM id) := by
  induction xs with
  | nil => exact ok []
  | cons x xs ih =>
    obtain ⟨hfirst, hlater⟩ := List.forall_mem_cons.1 hxs
    rw [List.mapM_cons]
    exact hfirst.bind fun a => (ih hlater).bind fun as => ok _

end ReportsParse

/-! ## Expressions and attributes -/

variable {scope : List String}

lemma reportsParse_parseModule (file source : String) :
    ReportsParse (Script.parseModule file source) := by
  unfold Script.parseModule
  dsimp only
  split
  · rintro d ⟨⟩
    rfl
  · split
    · rintro d ⟨⟩
      rfl
    · exact .ok _

lemma reportsParse_parseExpression (source : String) :
    ReportsParse (Script.parseExpression source) := by
  refine (reportsParse_parseModule _ _).bind fun parsed => ?_
  split
  · exact .ok _
  · exact .error _

lemma reportsParse_expression (source : String) : ReportsParse (expression scope source) := by
  unfold expression
  split
  · exact .ok _
  · exact .error _

lemma reportsParse_aliasNames (text : String) : ReportsParse (aliasNames text) := by
  refine (reportsParse_parseExpression _).bind fun e => ?_
  split
  · exact .ok _
  · exact .error _

lemma reportsParse_required (tag name : String) (value? : Option String) :
    ReportsParse (required tag name value?) := by
  unfold required
  split
  · exact .ok _
  · exact .error _

lemma reportsParse_propertyKey (name : String) : ReportsParse (propertyKey scope name) := by
  unfold propertyKey
  split
  · split
    · exact (reportsParse_expression _).map _
    · exact .ok _
  · exact .ok _

lemma reportsParse_handler (value? : Option String) : ReportsParse (handler scope value?) := by
  unfold handler
  dsimp only
  split
  · exact .ok _
  split
  · exact (reportsParse_expression _).map _
  split
  · exact .ok _
  split
  · exact .ok _
  · exact .error _

lemma reportsParse_addProperty (p : Props) (name : String) (v : Value) :
    ReportsParse (p.addProperty scope name v) := by
  unfold Props.addProperty
  split
  · exact .ok _
  · exact .ok _
  · exact (reportsParse_propertyKey _).map _

lemma reportsParse_radioValue (h : Host) : ReportsParse (radioValue scope h) := by
  unfold radioValue
  split
  · exact (reportsParse_expression _).map _
  · exact .ok _

lemma reportsParse_addModel (p : Props) (h : Host) (value : String) (modifiers : List String) :
    ReportsParse (p.addModel scope h value modifiers) := by
  unfold Props.addModel
  dsimp only
  split
  · refine (reportsParse_expression _).bind fun target => ?_
    split
    · exact .ok _
    split
    · exact .ok _
    split
    · exact (reportsParse_radioValue h).bind fun own => .ok _
    split
    · exact .ok _
    · exact .error _
  · exact .error _

lemma reportsParse_add (h : Host) (p : Props) (a : Markup.Attribute) :
    ReportsParse (Props.add scope h p a) := by
  have hvalue : ReportsParse (Props.add.valueOf scope h a) :=
    (reportsParse_required _ _ _).bind fun value => reportsParse_expression _
  unfold Props.add
  split
  · exact .ok _
  · exact hvalue.bind fun value => .ok _
  · exact hvalue.bind fun value => .ok _
  · exact hvalue.bind fun value => .ok _
  · exact (reportsParse_required _ _ _).bind fun value => reportsParse_addModel _ _ _ _
  · exact (reportsParse_expression _).bind fun source => reportsParse_addProperty _ _ _
  · split
    · exact .error _
    · exact (reportsParse_handler _).bind fun value => .ok _
  · exact .error _
  · exact reportsParse_addProperty _ _ _

lemma reportsParse_properties (h : Host) : ReportsParse (properties scope h) :=
  (ReportsParse.foldlM (reportsParse_add h) _ _).map _

/-! ## Siblings and elements -/

lemma reportsParse_ofValue (value : String) : ReportsParse (Loop.ofValue scope value) := by
  unfold Loop.ofValue
  split
  · exact .error _
  · exact (reportsParse_expression _).bind fun source =>
      (reportsParse_aliasNames _).bind fun names => .ok _

lemma reportsParse_loopOf (h : Host) : ReportsParse (loopOf scope h) := by
  unfold loopOf
  split
  · exact .ok _
  · exact (reportsParse_ofValue _).map _

lemma reportsParse_condition (b : Branch) : ReportsParse (b.condition scope) := by
  unfold Branch.condition
  dsimp only
  split
  · exact reportsParse_expression _
  · exact .error _

/-- Where rendering the piece fails, a parse error is reported. -/
def Piece.ReportsParse : Piece → Prop
  | text _ part => Template.ReportsParse part
  | element b => Template.ReportsParse b.result

lemma reportsParse_conditionalOf {bs : List Branch} (hbs : ∀ b ∈ bs, ReportsParse b.result) :
    ReportsParse (conditionalOf scope bs) := by
  have hconditions {cs : List Branch} (hcs : ∀ b ∈ cs, ReportsParse b.result) (no : Render) :
      ReportsParse (cs.foldrM (Branch.over scope) no) :=
    .foldrM (fun b hb no =>
      (reportsParse_condition b).bind fun test => (hcs b hb).bind fun yes => .ok _) no
  rcases List.eq_nil_or_concat bs with rfl | ⟨init, last, rfl⟩
  · exact .ok _
  rw [List.concat_eq_append] at hbs ⊢
  obtain ⟨hinit, hlast⟩ := List.forall_mem_append.1 hbs
  simp only [conditionalOf, List.getLast?_concat, List.dropLast_concat]
  split
  · exact (hlast last (by simp)).bind fun no => hconditions hinit no
  · exact hconditions hbs _

lemma reportsParse_assemble {ps : List Piece} (hps : ∀ p ∈ ps, p.ReportsParse) :
    ReportsParse (assemble scope ps) := by
  fun_induction assemble scope ps with
  | case1 => exact .ok _
  | case2 blank part ps run =>
    rename_i ih
    have hrun : ∀ part ∈ run, ReportsParse part := by
      intro part hpart
      obtain ⟨blank', hmem⟩ := text_mem_of_run hpart
      exact hps _ hmem
    have hrest : ∀ p ∈ ps.dropWhile Piece.isText, p.ReportsParse := fun p hp =>
      hps p (List.mem_cons_of_mem _ (List.dropWhile_subset _ hp))
    exact (ReportsParse.mapM hrun).bind fun parts => (ih hrest).bind fun rs => .ok _
  | case3 b ps hif hlt ih =>
    obtain ⟨hb, hlater⟩ := List.forall_mem_cons.1 hps
    obtain ⟨hbs, hafter⟩ := forall_takeBranches [] ps (by simp) hlater
    exact (reportsParse_conditionalOf (List.forall_mem_cons.2 ⟨hb, hbs⟩)).bind fun node =>
      (ih hafter).bind fun rs => .ok _
  | case4 => exact .error _
  | case5 b ps hif hcontinues ih =>
    obtain ⟨hb, hlater⟩ := List.forall_mem_cons.1 hps
    exact ReportsParse.bind hb fun node => (ih hlater).bind fun rs => .ok _

lemma reportsParse_withShow (h : Host) (node : Render) :
    ReportsParse (withShow scope h node) := by
  unfold withShow
  split
  · exact .ok _
  · split
    · exact .error _
    · exact (reportsParse_expression _).bind fun condition => .ok _

section

variable {below : Except Diagnostic (List Render)}

lemma reportsParse_elementRender (h : Host) (hbelow : ReportsParse below) :
    ReportsParse (elementRender scope h below) := by
  unfold elementRender
  split
  · exact hbelow.bind fun rs => .ok _
  · exact (reportsParse_properties _).bind fun props => hbelow.bind fun rs => .ok _
  · exact .error _
  · refine (reportsParse_properties h).bind fun props => ?_
    dsimp only
    split
    · exact reportsParse_withShow _ _
    · exact hbelow.bind fun children => reportsParse_withShow _ _

lemma reportsParse_loopedRender (h : Host) {loop? : Except Diagnostic (Option Loop)}
    (hloop : ReportsParse loop?) (hbelow : ReportsParse below) :
    ReportsParse (loopedRender scope h loop? below) := by
  refine hloop.bind fun loop? => ?_
  cases loop? with
  | none => exact reportsParse_elementRender h hbelow
  | some l => exact (reportsParse_elementRender h hbelow).bind fun item => .ok _

end

mutual

theorem reportsParse_toPiece (scope : List String) : (n : Node) → (n.toPiece scope).ReportsParse
  | .text _ => ReportsParse.ok _
  | .interpolation source => (reportsParse_expression source).map _
  | .element _ _ cs => reportsParse_loopedRender _ (reportsParse_loopOf _)
      (reportsParse_assemble (reportsParse_toPieces _ cs))

theorem reportsParse_toPieces (scope : List String) :
    (ns : List Node) → ∀ p ∈ Node.toPieces scope ns, p.ReportsParse
  | [] => by simp [Node.toPieces]
  | n :: ns => List.forall_mem_cons.2 ⟨reportsParse_toPiece scope n, reportsParse_toPieces scope ns⟩

end

/-- The generator reports nothing but parse errors. -/
theorem reportsParse_generate (roots : List Node) : ReportsParse (generate roots) :=
  (reportsParse_assemble (reportsParse_toPieces [] roots)).map _

/-! ## Unknown directives -/

/-- The directives that have no argument and no modifiers. -/
def bareDirectives : List String :=
  ["v-if", "v-else-if", "v-else", "v-for", "v-show", "v-cloak", "v-once", "v-html", "v-text",
   "v-bind"]

/-- Whether the name is written like a directive and there is none of this name. What begins with
`v-model` is not said to be unknown. -/
def isUnknownDirective (name : String) : Bool :=
  let begins (start : String) := Text.startsWith start.toList name.toList
  begins "#" ||
    begins "v-" && !bareDirectives.contains name && !(["v-bind:", "v-on:", "v-model"].any begins)

lemma ofName_unsupported {name : String} (hbare : bareDirectives.contains name = false)
    (hfree : ∀ start ∈ ["v-bind:", "v-on:", "v-model", ":", "@"],
      Text.startsWith start.toList name.toList = false)
    (hwritten : ∃ start ∈ ["v-", "#"], Text.startsWith start.toList name.toList) :
    Directive.ofName name = .unsupported := by
  have hstructural : Directive.structural.contains name = false := by
    rw [List.contains_eq_any_beq, List.any_eq_false] at hbare ⊢
    exact fun other hother => hbare other (by revert other; decide)
  have hne (other : String) (hother : other ∈ bareDirectives) : name ≠ other := by
    rintro rfl
    rw [List.contains_iff_mem.2 hother] at hbare
    cases hbare
  have hnone {starts : List String}
      (hstarts : starts ⊆ ["v-bind:", "v-on:", "v-model", ":", "@"]) :
      (starts.findSome? fun s => Text.dropPrefix? s.toList name.toList) = none :=
    (after_eq_none_iff _ _).2 fun s hs => hfree s (hstarts hs)
  unfold Directive.ofName
  dsimp only
  rw [hstructural, if_neg (by simp), if_neg (hne _ (by decide)), if_neg (hne _ (by decide)),
    if_neg (hne _ (by decide)), hnone (by decide), hnone (by decide), hnone (by decide)]
  dsimp only
  rw [if_pos (List.findSome?_isSome_iff.2 hwritten)]

lemma ofName_unknown {name : String} (h : isUnknownDirective name) :
    Directive.ofName name = .unsupported := by
  unfold isUnknownDirective at h
  dsimp only at h
  simp only [Bool.or_eq_true, Bool.and_eq_true, Bool.not_eq_true'] at h
  rcases h with hhash | ⟨⟨hv, hbare⟩, hnone⟩
  · have hfree : ∀ start ∈ ["v-bind:", "v-on:", "v-model", ":", "@"],
        Text.startsWith start.toList name.toList = false := by
      simp only [List.forall_mem_cons]
      refine ⟨?_, ?_, ?_, ?_, ?_, by simp⟩ <;> exact Text.startsWith_eq_false (by decide) hhash
    refine ofName_unsupported ?_ hfree ⟨"#", by simp, hhash⟩
    have hnot : ∀ other ∈ bareDirectives, Text.startsWith "#".toList other.toList = false := by
      decide +kernel
    rw [← Bool.not_eq_true, List.contains_iff_mem]
    intro hmem
    rw [hnot name hmem] at hhash
    cases hhash
  · have hfree : ∀ start ∈ ["v-bind:", "v-on:", "v-model", ":", "@"],
        Text.startsWith start.toList name.toList = false := by
      rw [List.any_eq_false] at hnone
      have hcolon : Text.startsWith ":".toList name.toList = false :=
        Text.startsWith_eq_false (by decide) hv
      have hat : Text.startsWith "@".toList name.toList = false :=
        Text.startsWith_eq_false (by decide) hv
      simp_all
    exact ofName_unsupported hbare hfree ⟨"v-", by simp, hv⟩

lemma add_known {h : Host} {p p' : Props} {a : Markup.Attribute}
    (hp : Props.add scope h p a = .ok p') : Directive.ofName a.name ≠ .unsupported := by
  intro hname
  rw [Props.add, hname] at hp
  cases hp

/-- Properties are made of directives that are known. -/
lemma properties_known {h : Host} {es : List Entry} (hes : properties scope h = .ok es) :
    ∀ a ∈ h.attributes, Directive.ofName a.name ≠ .unsupported := by
  obtain ⟨p, hp, -⟩ := map_eq_ok.1 hes
  have hfold {as : List Markup.Attribute} {p p' : Props}
      (hp : as.foldlM (Props.add scope h) p = .ok p') :
      ∀ a ∈ as, Directive.ofName a.name ≠ .unsupported := by
    induction as generalizing p with
    | nil => simp
    | cons a as ih =>
      rw [List.foldlM_cons] at hp
      obtain ⟨q, hq, hp⟩ := bind_eq_ok.1 hp
      exact List.forall_mem_cons.2 ⟨add_known hq, ih hp⟩
  exact hfold hp

/-- Where an element is rendered, all its directives are known. The attributes of a group are not
looked at. -/
lemma elementRender_known {h : Host} {below : Except Diagnostic (List Render)} {r : Render}
    (htag : h.tag ≠ "template") (hr : elementRender scope h below = .ok r) {a : Markup.Attribute}
    (ha : a ∈ h.attributes) : isUnknownDirective a.name = false := by
  rw [Bool.eq_false_iff]
  intro hname
  obtain ⟨hgroup, -⟩ | ⟨-, props, rs, hprops, -⟩ | ⟨-, -, props, children, hprops, -⟩ :=
    elementRender_cases hr
  · exact htag hgroup
  · have hothers : a ∈ h.attributes.filter (·.name != "name") := by
      have hne : a.name ≠ "name" := by
        intro heq
        rw [heq] at hname
        exact absurd hname (by decide +kernel)
      simp [ha, hne]
    exact properties_known hprops a hothers (ofName_unknown hname)
  · exact properties_known hprops a ha (ofName_unknown hname)

lemma toPiece_mem_toPieces {n : Node} {ns : List Node} (h : n ∈ ns) :
    n.toPiece scope ∈ Node.toPieces scope ns := by
  induction ns with
  | nil => cases h
  | cons m ns ih =>
    rcases List.mem_cons.1 h with rfl | h
    · exact .head _
    · exact .tail _ (ih h)

/-- Siblings are rendered only with all elements among them. -/
lemma gives_of_mem {ps : List Piece} {b : Branch} {rs : List Render}
    (hrs : assemble scope ps = .ok rs) (h : .element b ∈ ps) : ∃ r, b.Gives r := by
  obtain ⟨ss, hss, -⟩ := assemble_components hrs
  have hb : b ∈ branchesOf ps := List.mem_filterMap.2 ⟨_, h, rfl⟩
  obtain ⟨i, hi, rfl⟩ := List.getElem_of_mem hb
  obtain ⟨hlength, hgives⟩ := List.forall₂_iff_get.1 hss
  exact ⟨ss[i], hgives i hi (hlength ▸ hi)⟩

lemma element_rendered {ns cs : List Node} {tag : String} {as : List Markup.Attribute}
    {rs : List Render} (hrs : assemble scope (Node.toPieces scope ns) = .ok rs)
    (h : .element tag as cs ∈ ns) : ∃ outer inner r,
      elementRender outer ⟨tag, isComponentTag tag, as⟩
        (assemble inner (Node.toPieces inner cs)) = .ok r := by
  obtain ⟨r, hr⟩ := gives_of_mem hrs (toPiece_mem_toPieces h)
  obtain ⟨outer, item, hitem, -⟩ := loopedRender_components hr
  exact ⟨outer, _, item, hitem⟩

/-- Siblings are rendered only with all elements among them and below them that code is generated
for. -/
lemma rendered_of_emitted {ns cs : List Node} {tag : String}
    {as : List Markup.Attribute} {rs : List Render}
    (hrs : assemble scope (Node.toPieces scope ns) = .ok rs)
    (h : Emitted ns (.element tag as cs)) :
    ∃ inner below r, elementRender inner ⟨tag, isComponentTag tag, as⟩ below = .ok r := by
  generalize hn : Node.element tag as cs = n at h
  induction h generalizing scope rs with
  | here h =>
    subst hn
    obtain ⟨outer, inner, r, hr⟩ := element_rendered hrs h
    exact ⟨_, _, _, hr⟩
  | inside h unfilled deeper ih =>
    obtain ⟨outer, inner, r, hr⟩ := element_rendered hrs h
    obtain ⟨children, -, hunfilled, -⟩ := elementRender_components rfl hr
    exact ih (hunfilled unfilled) hn

/-- A directive that is not known is refused wherever code is generated for its element, except on
a group. -/
theorem generate_unknownDirective {roots cs : List Node} {tag : String}
    {as : List Markup.Attribute} {a : Markup.Attribute} (h : Emitted roots (.element tag as cs))
    (htag : tag ≠ "template") (ha : a ∈ as) (hname : isUnknownDirective a.name) :
    ∃ d, generate roots = .error d ∧ d.phase = .parse := by
  cases hcode : generate roots with
  | error d => exact ⟨d, rfl, reportsParse_generate roots d hcode⟩
  | ok code =>
    obtain ⟨rs, hrs, -⟩ := generate_eq_ok.1 hcode
    obtain ⟨inner, below, r, hr⟩ := rendered_of_emitted hrs h
    rw [elementRender_known htag hr ha] at hname
    cases hname

/-- A note in the fallback of a slot, below a group. -/
def noteInSlot : List Node :=
  [.element "template" [⟨"v-if", some "a"⟩]
    [.text "b", .element "slot" [⟨"v-html", some "c"⟩] [.element "my-note" [⟨"#d", none⟩] []]]]

theorem generate_unknownDirective_noteInSlot :
    Emitted noteInSlot (.element "my-note" [⟨"#d", none⟩] []) ∧ "my-note" ≠ "template" ∧
      isUnknownDirective "#d" ∧ ∃ d, generate noteInSlot = .error d ∧ d.phase = .parse := by
  have hnote : Emitted noteInSlot (.element "my-note" [⟨"#d", none⟩] []) :=
    .inside (.head _) rfl (.inside (.tail _ (.head _)) rfl (.here (.head _)))
  have hname : isUnknownDirective "#d" := by decide +kernel
  exact ⟨hnote, by decide, hname, generate_unknownDirective hnote (by decide) (.head _) hname⟩

/-- An element whose content comes from a directive. -/
def filledNote : List Node :=
  [.element "div" [⟨"v-html", some "a"⟩] [.element "p" [⟨"v-focus", none⟩] []]]

/-- A group that names a slot. -/
def namedGroup : List Node := [.element "template" [⟨"#header", none⟩] [.text "a"]]

/-- A model with an argument. -/
def titledModel : List Node := [.element "input" [⟨"v-model:title", some "a"⟩] []]

/-- Directives are not looked at below an element whose content comes from a directive, nor on a
group, and what begins with `v-model` counts as that. -/
theorem generate_unseenDirectives :
    (isUnknownDirective "v-focus" ∧ ∃ code, generate filledNote = .ok code) ∧
      (isUnknownDirective "#header" ∧ ∃ code, generate namedGroup = .ok code) ∧
      ∃ code, generate titledModel = .ok code := by
  have hgenerated {roots : List Node} (hok : (generate roots).isOk = true) :
      ∃ code, generate roots = .ok code := by
    cases hcode : generate roots with
    | error d => rw [hcode] at hok; cases hok
    | ok code => exact ⟨code, rfl⟩
  exact ⟨⟨by decide +kernel, hgenerated (by decide +kernel)⟩,
    ⟨by decide +kernel, hgenerated (by decide +kernel)⟩, hgenerated (by decide +kernel)⟩

end Unbundled.Template
