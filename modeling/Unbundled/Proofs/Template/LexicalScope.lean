import Unbundled.Proofs.Script.References
import Unbundled.Proofs.Template.Recording
import Unbundled.Proofs.Text.Split

/-!
# Lexical scope in templates

The names that a source sees are those of the loops around it, from the outside, with the loop of
its own element unless it is the list of that loop or a condition of the element, and `$event` for
code that is run on the event. The generator on a stack scopes every source with exactly these
names, so what the running generator computes from the names it passes down is lexically scoped.
-/

namespace Unbundled.Template

open Script (Diagnostic)

/-- The names that the loop of a node binds. -/
def Node.aliases : Node → List String
  | .element _ as _ => Template.aliases as
  | _ => []

/-- The names of the elements around, from the outside. -/
def namesOf (trail : List Node) : List String := trail.flatMap Node.aliases

/-- The names in force at a site. -/
def Site.scope (site : Site) : List String :=
  site.role.onStack (namesOf site.trail.dropLast) (namesOf site.trail)

/-- `source` is written below `ns` at that site. -/
inductive Written : List Node → Site → String → Prop
  | interpolation {ns : List Node} {source : String} (h : .interpolation source ∈ ns) :
      Written ns ⟨[], .interpolation⟩ source
  | own {ns cs : List Node} {tag source : String} {as : List Markup.Attribute}
      {a : Markup.Attribute} {role : Role} (h : .element tag as cs ∈ ns) (ha : a ∈ as)
      (held : Holds a role source) : Written ns ⟨[.element tag as cs], role⟩ source
  | inside {ns cs : List Node} {tag source : String} {as : List Markup.Attribute} {site : Site}
      (h : .element tag as cs ∈ ns) (deeper : Written cs site source) :
      Written ns ⟨.element tag as cs :: site.trail, site.role⟩ source

/-- The parameters, read as those of an arrow function, bind these names and no others. -/
def BindsExactly (params : String) (names : List String) : Prop :=
  ∃ e span isAsync ps body, Script.parseExpression (params ++ " => 0") = .ok e ∧
    withoutParens e = .arrow span isAsync ps body ∧
    ∀ x, x ∈ names ↔ ∃ p ∈ ps, Script.Declares p x

/-- What may be recorded below `ns`, with the names `stack` and the elements `around` outside. -/
def Event.RightBelow (stack : List String) (around ns : List Node) : Event → Prop
  | compiled site source names => ∃ inner : Site, site = ⟨around ++ inner.trail, inner.role⟩ ∧
      Written ns inner source ∧ names = stack ++ inner.scope
  | entered params names => BindsExactly params names

lemma onStack_append (s outer inner : List String) (role : Role) :
    role.onStack (s ++ outer) (s ++ inner) = s ++ role.onStack outer inner := by
  cases role <;> simp [Role.onStack]

lemma Written.role_eq {ns : List Node} {site : Site} {source : String} (h : Written ns site source)
    (htrail : site.trail = []) : site.role = .interpolation := by
  cases h with
  | interpolation => rfl
  | own => cases htrail
  | inside => cases htrail

lemma Written.scope_cons {cs : List Node} {site : Site} {source : String}
    (h : Written cs site source) (n : Node) :
    Site.scope ⟨n :: site.trail, site.role⟩ = n.aliases ++ site.scope := by
  rw [Site.scope, Site.scope, ← onStack_append]
  by_cases htrail : site.trail = []
  · simp [h.role_eq htrail, htrail, Role.onStack, namesOf]
  · simp [List.dropLast_cons_of_ne_nil htrail, namesOf]

lemma Event.RightBelow.outward {stack : List String} {around ns cs : List Node} {tag : String}
    {as : List Markup.Attribute} {e : Event} (h : .element tag as cs ∈ ns)
    (he : e.RightBelow (stack ++ Template.aliases as) (around ++ [.element tag as cs]) cs) :
    e.RightBelow stack around ns := by
  cases e with
  | compiled site source names =>
    obtain ⟨inner, rfl, hwritten, rfl⟩ := he
    refine ⟨⟨.element tag as cs :: inner.trail, inner.role⟩, ?_, .inside h hwritten, ?_⟩
    · simp
    · rw [hwritten.scope_cons, Node.aliases, List.append_assoc]
  | entered params names => exact he

lemma Event.RightBelow.mono {stack : List String} {around ms ns : List Node} {e : Event}
    (h : ∀ n ∈ ms, n ∈ ns) (he : e.RightBelow stack around ms) : e.RightBelow stack around ns := by
  cases e with
  | compiled site source names =>
    obtain ⟨inner, rfl, hwritten, rfl⟩ := he
    refine ⟨inner, rfl, ?_, rfl⟩
    cases hwritten with
    | interpolation hmem => exact .interpolation (h _ hmem)
    | own hmem ha held => exact .own (h _ hmem) ha held
    | inside hmem deeper => exact .inside (h _ hmem) deeper
  | entered params names => exact he

lemma loopNames_loopOf {s : List String} {h : Host} {loop? : Option Loop}
    (hloop : loopOf s h = .ok loop?) : loopNames (.ok loop?) = aliases h.attributes := by
  unfold loopOf Host.attribute? at hloop
  unfold aliases
  cases ha : h.attributes.find? (·.name == "v-for") with
  | none =>
    rw [ha] at hloop
    cases hloop
    rfl
  | some a =>
    rw [ha] at hloop
    obtain ⟨l, hl, rfl⟩ := map_eq_ok.1 hloop
    obtain ⟨binder, source, hsplit, -, hnames, -⟩ := ofValue_cases hl
    simp only [hsplit, hnames]
    rfl

/-- Where the loop is faulty, it does not matter what is inside. -/
lemma loopedRender_below {s : List String} {h : Host}
    (below : List String → Except Diagnostic (List Render)) :
    loopedRender s h (loopOf s h) (below (s ++ loopNames (loopOf s h))) =
      loopedRender s h (loopOf s h) (below (s ++ aliases h.attributes)) := by
  cases hloop : loopOf s h with
  | error e => rfl
  | ok loop? => rw [loopNames_loopOf hloop]

lemma trim_binder {value binder source : String} (h : splitLoop? value = some (binder, source)) :
    Text.trim binder = binder := by
  obtain ⟨⟨cs, ds⟩, -, heq⟩ := Option.map_eq_some_iff.1 h
  obtain ⟨rfl, -⟩ := Prod.mk.inj heq
  exact Text.trim_trim _

lemma bindsExactly_aliasNames {value binder source : String} {names : List String}
    (hsplit : splitLoop? value = some (binder, source)) (h : aliasNames binder = .ok names) :
    BindsExactly (Gen.paramsOf binder) names := by
  unfold aliasNames at h
  rw [trim_binder hsplit] at h
  obtain ⟨e, he, h⟩ := bind_eq_ok.1 h
  split at h
  next span isAsync ps body harrow =>
    cases h
    exact ⟨e, span, isAsync, ps, body, he, harrow, fun x => Script.mem_boundNames⟩
  next => cases h

/-- The parameters of a loop bind the names that are in force inside. -/
lemma bindsExactly_ofValue {scope : List String} {value : String} {l : Loop}
    (h : Loop.ofValue scope value = .ok l) : BindsExactly l.params l.names := by
  obtain ⟨binder, source, hsplit, -, hnames, hparams⟩ := ofValue_cases h
  rw [hparams]
  exact bindsExactly_aliasNames hsplit hnames

mutual

/-- A part computes what the piece is, and what it records is right. -/
theorem follows_toPart (s : List String) (around : List Node) : (n : Node) → {P : Event → Prop} →
    (∀ e, Event.RightBelow s around [n] e → P e) →
      Gen.Part.Follows s P (n.toPiece s) (n.toPart around)
  | .text content, P, hP => .text (.pure _)
  | .interpolation source, P, hP => by
    have hsite : P (.compiled ⟨around, .interpolation⟩ source s) :=
      hP _ ⟨⟨[], .interpolation⟩, by simp, .interpolation (by simp),
        by simp [Site.scope, Role.onStack, namesOf]⟩
    have hshown : (expression s source).map TextPart.display =
        expression s source >>= fun text => .ok (.display text) := by
      cases expression s source <;> rfl
    refine .text ?_
    rw [hshown]
    exact .bind (.compile hsite) fun text _ => .bind_ok (.refer _) (.pure _)
  | .element tag as cs, P, hP => by
    have hattribute :
        Allows P (around ++ [.element tag as cs]) as s (s ++ aliases as) := by
      intro a ha role source held
      refine hP _ ⟨⟨[.element tag as cs], role⟩, rfl, .own (by simp) ha held, ?_⟩
      have hscope := onStack_append s [] (aliases as) role
      rw [List.append_nil] at hscope
      rw [hscope]
      simp [Site.scope, namesOf, Node.aliases]
    have hbelow := Gen.computes_siblings (follows_toParts (s ++ aliases as)
      (around ++ [.element tag as cs]) cs (P := P) fun e he => hP e (he.outward (by simp)))
    rw [Node.toPiece, Node.toPart]
    refine .element ⟨rfl, ?_, fun a ha source held => hattribute a ha .condition source held⟩
    -- `hbelow` is about the names of the attributes, the piece about those of the loop as read
    rw [loopedRender_below (fun inner => assemble inner (Node.toPieces inner cs))]
    refine .element hattribute (fun value binder source names hsplit hnames => ?_) hbelow
    exact hP _ (bindsExactly_aliasNames hsplit hnames)

theorem follows_toParts (s : List String) (around : List Node) : (ns : List Node) →
    {P : Event → Prop} → (∀ e, Event.RightBelow s around ns e → P e) →
      List.Forall₂ (Gen.Part.Follows s P) (Node.toPieces s ns) (Node.toParts around ns)
  | [], P, hP => .nil
  | n :: ns, P, hP =>
    .cons (follows_toPart s around n fun e he => hP e (he.mono (by simp)))
      (follows_toParts s around ns fun e he => hP e (he.mono (by simp +contextual)))

end

/-- What may be recorded for the roots of a template. -/
def Event.Right (roots : List Node) : Event → Prop
  | compiled site source names => Written roots site source ∧ names = site.scope
  | entered params names => BindsExactly params names

lemma Event.RightBelow.right {roots : List Node} {e : Event} (h : e.RightBelow [] [] roots) :
    e.Right roots := by
  cases e with
  | compiled site source names =>
    obtain ⟨inner, rfl, hwritten, rfl⟩ := h
    exact ⟨hwritten, rfl⟩
  | entered params names => exact h

namespace Gen

/-- From any stack, children come to what is computed from the names on it. -/
theorem computes_children {s : List String} {trail ns : List Node} {P : Event → Prop}
    (hP : ∀ e, Event.RightBelow s trail ns e → P e) :
    Computes (children trail ns) s (assemble s (Node.toPieces s ns)) P :=
  computes_siblings (follows_toParts s trail ns hP)

variable (trail ns : List Node) (h : Host)

lemma children_restores : (children trail ns).Restores :=
  .of_computes fun _ => computes_children fun _ _ => trivial

lemma element_restores : (element trail h (children trail ns)).Restores :=
  .of_computes fun _ => .element (fun _ _ _ _ _ => trivial) (fun _ _ _ _ _ _ => trivial)
    (computes_children fun _ _ => trivial)

lemma props_restores : (props trail h).Restores :=
  .of_computes fun s => .props (o := s) fun _ _ _ _ _ => trivial

lemma slot_restores : (slot trail h (children trail ns)).Restores :=
  .of_computes fun s => .slot (o := s) (fun _ _ _ _ _ => trivial)
    (computes_children fun _ _ => trivial)

lemma model_restores (p : Props) (value : String) (modifiers : List String) :
    (model trail h p value modifiers).Restores :=
  .of_computes fun _ => .model trivial fun _ _ => trivial

lemma handler_restores (value? : Option String) : (handler trail value?).Restores :=
  .of_computes fun _ => .handler (fun _ => trivial) fun _ => trivial

/-- Run on an empty stack, the generator writes the module, has noted down what the module declares,
and has recorded events that are right. What had been noted down before plays no part. -/
theorem run_module {roots : List Node} {rs : List Render} (hrs : Render.ofNodes roots = .ok rs)
    (demands : Demands) (log : List Event) : ∃ new,
      (module roots).run.run ⟨[], demands, log⟩ = (.ok (moduleText (rootOf rs)),
        ⟨[], (rootDemands (rootOf rs)).withConstants, log ++ new⟩) ∧ ∀ e ∈ new, e.Right roots := by
  have hforget : (modify fun g => { g with demands := {} } : Gen Unit).run.run ⟨[], demands, log⟩ =
      (.ok (), ⟨[], {}, log⟩) := rfl
  have hcomputes : Computes (children [] roots) [] (Render.ofNodes roots) (Event.Right roots) :=
    computes_children fun _ he => he.right
  obtain ⟨made, new, hchildren, hnew⟩ := hcomputes {} log
  rw [hrs] at hchildren
  obtain ⟨placed, more, hroot, hmore⟩ := Computes.root (s := []) (P := Event.Right roots) rs made
    (log ++ new)
  have hmade := notes_children [] roots {} _ _ _ rfl hchildren
  have hplaced : placed = rootDemands (rootOf rs) := ensures_root rs _ _ _ hmade hroot
  refine ⟨new ++ more, ?_, by simpa [or_imp, forall_and] using ⟨hnew, hmore⟩⟩
  rw [module, run_bind_ok hforget, run_bind_ok hchildren, run_bind_ok hroot, run_declare, hplaced,
    imports_rootDemands, components_rootDemands, List.append_assoc, moduleText]

end Gen

/-- Run on a stack, the generator comes to the same module or error as the one that passes names
down. It starts and ends with an empty stack, which each part that can change it restores, and
scopes every source with the names that are lexically in force at its site. The parameters of a
loop bind the names that it adds. -/
theorem generate_scoped (roots : List Node) :
    Gen.Computes (Gen.module roots) [] (generate roots) (Event.Right roots) ∧
    (∀ scope value l, Loop.ofValue scope value = .ok l → BindsExactly l.params l.names) ∧
    (∀ trail ns, (Gen.children trail ns).Restores) ∧
    (∀ trail h ns, (Gen.element trail h (Gen.children trail ns)).Restores) ∧
    (∀ trail h, (Gen.props trail h).Restores) ∧
    (∀ trail h ns, (Gen.slot trail h (Gen.children trail ns)).Restores) ∧
    (∀ trail h p value modifiers, (Gen.model trail h p value modifiers).Restores) ∧
    (∀ trail value?, (Gen.handler trail value?).Restores) := by
  refine ⟨?_, fun _ _ _ => bindsExactly_ofValue, Gen.children_restores,
    fun trail h ns => Gen.element_restores trail ns h, Gen.props_restores,
    fun trail h ns => Gen.slot_restores trail ns h, Gen.model_restores, Gen.handler_restores⟩
  intro demands log
  cases hrs : Render.ofNodes roots with
  | ok rs =>
    obtain ⟨new, hrun, hnew⟩ := Gen.run_module hrs demands log
    exact ⟨_, new, by rw [hrun, generate_eq_ok.2 ⟨rs, hrs, rfl⟩], hnew⟩
  | error e =>
    have hroots : Gen.Computes (Gen.children [] roots) [] (Render.ofNodes roots)
        (Event.Right roots) :=
      Gen.computes_children fun _ he => he.right
    rw [hrs] at hroots
    have hmodule : Gen.Computes (Gen.module roots) [] (.error e) (Event.Right roots) :=
      .bind_ok (.note fun _ => {}) (.bind_error hroots)
    have hgenerate : generate roots = .error e := by
      rw [generate, hrs]
      rfl
    rw [hgenerate]
    exact hmodule demands log

/-- A loop that binds a name, and the same name behind it. -/
def nameBehindLoop : List Node :=
  [.element "li" [⟨"v-for", some "x in xs"⟩, ⟨"@click", some "go(x)"⟩] [.interpolation "x"],
   .interpolation "x"]

example : ((Gen.module nameBehindLoop).run.run {}).2.log.filterMap (fun
      | .compiled site source names => some (site.role, source, names)
      | .entered .. => none) =
    [(.loopSource, "xs", []), (.inline, "go(x)", ["x", "$event"]), (.interpolation, "x", ["x"]),
      (.interpolation, "x", [])] := by
  decide +kernel

end Unbundled.Template
