import Unbundled.Proofs.Template.Generator
import Unbundled.Proofs.Template.Steps

/-!
# The generator on a stack, part by part

Each part of the generator on a stack computes what the part of the same name computes from the
names in force, and scopes the sources that are written in its attributes. `outer` names are those
around an element, `inner` ones are those inside.
-/

namespace Unbundled.Template

open Script (Diagnostic)

/-- The names that a source in this role sees, with those around the element and those inside. -/
def Role.onStack (outer inner : List String) : Role → List String
  | loopSource | condition => outer
  | inline => inner ++ ["$event"]
  | _ => inner

/-- The names that the loop of an element binds. -/
def aliases (as : List Markup.Attribute) : List String :=
  match as.find? (·.name == "v-for") with
  | none => []
  | some a =>
    match splitLoop? (a.value?.getD "") with
    | none => []
    | some (binder, _) => (aliasNames binder).toOption.getD []

/-- The property whose key the name of the attribute gives. -/
def propertyName? (a : Markup.Attribute) : Option String :=
  match Directive.ofName a.name with
  | .bind name modifiers => some (if modifiers.contains "camel" then camelize name else name)
  | .plain => some a.name
  | _ => none

/-- A handler that is taken as it is. -/
def isTaken (value : String) : Bool := isSimplePath value || isFunctionExpression value

/-- `source` is written in the attribute, in this role. -/
inductive Holds (a : Markup.Attribute) : Role → String → Prop
  | value {source : String} (h : Directive.ofName a.name ∈ [.html, .textContent, .bindAll])
      (hvalue : a.value? = some source) : Holds a .binding source
  | bound {name : String} {modifiers : List String}
      (h : Directive.ofName a.name = .bind name modifiers) :
      Holds a .binding (a.value?.getD
        (camelize (if modifiers.contains "camel" then camelize name else name)))
  | key {source : String} (h : propertyName? a = some ("[" ++ source ++ "]")) :
      Holds a .key source
  | model {value : String} {modifiers : List String}
      (h : Directive.ofName a.name = .model modifiers) (hvalue : a.value? = some value) :
      Holds a .model (Text.trim value)
  | handler {event : String} {modifiers : List String}
      (h : Directive.ofName a.name = .on event modifiers)
      (taken : isTaken (Text.trim (a.value?.getD ""))) :
      Holds a .handler (Text.trim (a.value?.getD ""))
  | inline {event : String} {modifiers : List String}
      (h : Directive.ofName a.name = .on event modifiers)
      (taken : ¬ isTaken (Text.trim (a.value?.getD ""))) :
      Holds a .inline (Text.trim (a.value?.getD ""))
  | shown {source : String} (h : a.name = "v-show") (hvalue : a.value? = some source) :
      Holds a .shown source
  | condition {source : String} (h : a.name = "v-if" ∨ a.name = "v-else-if")
      (hvalue : a.value? = some source) : Holds a .condition source
  | loopSource {binder source : String} (h : a.name = "v-for")
      (split : splitLoop? (a.value?.getD "") = some (binder, source)) :
      Holds a .loopSource source

/-- The sources in the attributes may be recorded with these names around and inside. -/
def Allows (P : Event → Prop) (trail : List Node) (as : List Markup.Attribute)
    (outer inner : List String) : Prop :=
  ∀ a ∈ as, ∀ role source, Holds a role source →
    P (.compiled ⟨trail, role⟩ source (role.onStack outer inner))

lemma value_of_required {tag name value : String} {value? : Option String}
    (h : required tag name value? = .ok value) : value? = some value := by
  unfold required at h
  split at h
  next v hv =>
    cases h
    exact (Option.filter_eq_some_iff.1 hv).1
  next => cases h

namespace Gen.Computes

variable {o s : List String} {P : Event → Prop} {trail : List Node} {h : Host}
  {a : Markup.Attribute}

lemma key {name : String}
    (hP : ∀ source, name = "[" ++ source ++ "]" → P (.compiled ⟨trail, .key⟩ source s)) :
    Computes (Gen.key trail name) s (propertyKey s name) P := by
  unfold Gen.key
  split
  next cs hcs =>
    have hkey : propertyKey s name = if cs.getLast? = some ']' then
        (expression s (String.ofList cs.dropLast)).map .computed else .ok (.named name) := by
      simp only [propertyKey, hcs]
    rw [hkey]
    refine ite (fun hlast => map _ (compile (hP _ ?_))) fun _ => pure _
    obtain ⟨init, rfl⟩ := List.getLast?_eq_some_iff.1 hlast
    apply String.toList_injective
    simp [hcs]
  next hcs =>
    have hkey : propertyKey s name = .ok (.named name) := by
      unfold propertyKey
      split
      next cs hcs' => exact absurd hcs' (hcs cs)
      next => rfl
    rw [hkey]
    exact pure _

lemma addProperty {p : Props} {name : String} {v : Value}
    (hP : ∀ source, name = "[" ++ source ++ "]" → P (.compiled ⟨trail, .key⟩ source s)) :
    Computes (Gen.addProperty trail p name v) s (p.addProperty s name v) P := by
  have hadd : p.addProperty s name v =
      if name = "class" then .ok { p with classes := p.classes ++ [v] }
      else if name = "style" then .ok { p with styles := p.styles ++ [v] }
      else (propertyKey s name).map fun key => p.addEntry (.property key v) := by
    unfold Props.addProperty
    split <;> simp_all
  rw [hadd]
  exact ite (fun _ => pure _) fun _ => ite (fun _ => pure _) fun _ => map _ (key hP)

lemma inline {value : String} (hP : P (.compiled ⟨trail, .inline⟩ value s)) :
    Computes (Gen.inline trail value) s
      (match prefixedExpression s value with
      | .ok e => .ok (.onEvent e)
      | .error _ =>
        match prefixedStatements s value with
        | .ok statements => .ok (.onEventBlock statements)
        | .error e =>
          .error (.parseError ("invalid handler \x60" ++ value ++ "\x60: " ++ e.message))) P := by
  refine bind_ok (outcome (scopeWith hP)) ?_
  cases prefixedExpression s value with
  | ok e => exact pure _
  | error e =>
    refine bind_ok (outcome (scopeWith hP)) ?_
    cases prefixedStatements s value with
    | ok statements => exact pure _
    | error e => exact throw _

lemma handler {value? : Option String}
    (hhandler : isTaken (Text.trim (value?.getD "")) →
      P (.compiled ⟨trail, .handler⟩ (Text.trim (value?.getD "")) s))
    (hinline : ¬ isTaken (Text.trim (value?.getD "")) →
      P (.compiled ⟨trail, .inline⟩ (Text.trim (value?.getD "")) (s ++ ["$event"]))) :
    Computes (Gen.handler trail value?) s (Template.handler s value?) P := by
  unfold Gen.handler Template.handler
  dsimp only
  generalize Text.trim (value?.getD "") = value at *
  refine ite (fun _ => pure _) fun _ => ?_
  refine ite (fun htaken => map _ (compile (hhandler htaken))) fun htaken => ?_
  exact pushing (inline (hinline htaken))

lemma radioValue (hP : ∀ source, h.value? ":value" = some source →
      P (.compiled ⟨trail, .binding⟩ source s)) :
    Computes (Gen.radioValue trail h) s (Template.radioValue s h) P := by
  unfold Gen.radioValue Template.radioValue
  cases hvalue : h.value? ":value" with
  | none => exact pure _
  | some source => exact map _ (compile (hP source hvalue))

lemma model {p : Props} {value : String} {modifiers : List String}
    (htarget : P (.compiled ⟨trail, .model⟩ (Text.trim value) s))
    (hradio : ∀ source, h.value? ":value" = some source →
      P (.compiled ⟨trail, .binding⟩ source s)) :
    Computes (Gen.model trail h p value modifiers) s (p.addModel s h value modifiers) P := by
  unfold Gen.model Props.addModel
  refine ite (fun _ => ?_) fun _ => throw _
  refine bind (compile htarget) fun target _ => ?_
  refine ite (fun _ => pure _) fun _ => ite (fun _ => pure _) fun _ => ?_
  refine ite (fun _ => bind (radioValue hradio) fun own _ => pure _) fun _ => ?_
  exact ite (fun _ => pure _) fun _ => throw _

lemma valueOf (hP : ∀ source, a.value? = some source → P (.compiled ⟨trail, .binding⟩ source s)) :
    Computes (Gen.valueOf trail h a) s (Props.add.valueOf s h a) P :=
  bind (of _) fun _ hsource => compile (hP _ (value_of_required hsource))

lemma guarded {modifiers : List String} {v : Value} :
    Computes (Gen.guarded modifiers v) s
      (.ok (if modifiers.isEmpty then v else .withModifiers v modifiers)) P := by
  rw [apply_ite Except.ok]
  exact ite (fun _ => pure _) fun _ => bind_ok (refer _) (pure _)

lemma keyed {keys : List String} {v : Value} :
    Computes (Gen.keyed keys v) s (.ok (if keys.isEmpty then v else .withKeys v keys)) P := by
  rw [apply_ite Except.ok]
  exact ite (fun _ => pure _) fun _ => bind_ok (refer _) (pure _)

lemma wrapped {modifiers : List String} {v : Value} :
    Computes (Gen.wrapped modifiers v) s (.ok (guardHandler modifiers v)) P :=
  bind_ok guarded keyed

lemma addAttribute {p : Props}
    (hP : ∀ role source, Holds a role source →
      P (.compiled ⟨trail, role⟩ source (role.onStack o s)))
    (hradio : ∀ source, h.value? ":value" = some source →
      P (.compiled ⟨trail, .binding⟩ source s)) :
    Computes (Gen.addAttribute trail h p a) s (p.add s h a) P := by
  have hvalue (hd : Directive.ofName a.name ∈ [.html, .textContent, .bindAll]) :
      Computes (Gen.valueOf trail h a) s (Props.add.valueOf s h a) P :=
    valueOf fun source hsource => hP .binding source (.value hd hsource)
  have hkey {name : String} (hname : propertyName? a = some name) (source : String)
      (hsource : name = "[" ++ source ++ "]") : P (.compiled ⟨trail, .key⟩ source s) :=
    hP .key source (.key (hsource ▸ hname))
  unfold Gen.addAttribute Props.add
  cases hd : Directive.ofName a.name with
  | none => exact pure _
  | html => exact bind (hvalue (by simp [hd])) fun text _ => pure _
  | textContent => exact bind (hvalue (by simp [hd])) fun text _ => bind_ok (refer _) (pure _)
  | bindAll => exact bind (hvalue (by simp [hd])) fun text _ => pure _
  | model modifiers =>
    refine bind (of _) fun value hrequired => model ?_ hradio
    have hwritten := value_of_required hrequired
    exact hP .model _ (.model hd hwritten)
  | bind name modifiers =>
    refine bind (compile (hP .binding _ (.bound hd))) fun source _ => addProperty (hkey ?_)
    simp only [propertyName?, hd]
  | on event modifiers =>
    refine ite (fun _ => throw _) fun _ =>
      bind (handler ?_ ?_) fun v _ => bind_ok wrapped (pure _)
    · exact fun htaken => hP .handler _ (.handler hd htaken)
    · exact fun hinside => hP .inline _ (.inline hd hinside)
  | unsupported => exact throw _
  | plain =>
    refine addProperty (hkey ?_)
    simp only [propertyName?, hd]

lemma props
    (hP : Allows P trail h.attributes o s) :
    Computes (Gen.props trail h) s (properties s h) P := by
  refine map _ (foldlM (fun p a ha => addAttribute (hP a ha) fun source hsource => ?_) {})
  -- what a radio button stands for is written in another attribute, which is a binding itself
  obtain ⟨b, hb, hvalue⟩ := Option.bind_eq_some_iff.1 hsource
  have hname : b.name = ":value" := by simpa using List.find?_some hb
  have hdirective : Directive.ofName b.name = .bind "value" [] := by
    rw [hname]
    decide +kernel
  have hheld := Holds.bound (a := b) hdirective
  rw [hvalue] at hheld
  exact hP b (List.mem_of_find?_eq_some hb) .binding source hheld

lemma place (rs : List Render) : Computes (Gen.place rs) s (.ok ()) P := by
  fun_induction Gen.place rs with
  | case1 => exact pure ()
  | case2 parts rs ih => exact bind_ok (refer _) ih
  | case3 r rs hr ih => exact ih

lemma group (rs : List Render) :
    Computes (Gen.group rs) s (.ok (.vnode .fragment [] rs)) P :=
  bind_ok (place rs) (bind_ok (refer _) (bind_ok (refer _) (pure _)))

lemma root (rs : List Render) : Computes (Gen.root rs) s (.ok (rootOf rs)) P := by
  match rs with
  | [] => exact pure _
  | [.text parts] => exact map some (group _)
  | [.vnode ..] | [.loop ..] | [.conditional ..] | [.placeholder] | [.slot ..] | [.shown ..] =>
    exact pure _
  | r :: _ :: _ => cases r <;> exact map some (group _)

lemma slot {below : Gen (List Render)} {rs : Except Diagnostic (List Render)}
    (hP : Allows P trail h.attributes o s)
    (hbelow : Computes below s rs P) :
    Computes (Gen.slot trail h below) s (slotRender s h rs) P := by
  have hothers : Allows P trail (h.attributes.filter (·.name != "name")) o s :=
    fun a ha => hP a (List.mem_filter.1 ha).1
  exact bind (props hothers) fun entries _ => bind hbelow fun children _ =>
    bind_ok (place children) (bind_ok (refer _) (pure _))

lemma tagOf : Computes (Gen.tagOf h) s (.ok h.tagged) P := by
  unfold Gen.tagOf Host.tagged
  rw [apply_ite Except.ok]
  exact ite (fun _ => bind_ok (resolve _) (pure _)) fun _ => pure _

lemma under {tag : Tag} {below : Gen (List Render)} {rs : Except Diagnostic (List Render)}
    (hbelow : Computes below s rs P) : Computes (Gen.under tag below) s rs P := by
  have hplaced : Computes (Gen.under tag below) s (rs >>= .ok) P :=
    hbelow.bind fun children _ => by
      split
      · exact pure _
      · exact bind_ok (place children) (pure _)
  cases rs <;> exact hplaced

lemma withShow {node : Render}
    (hP : Allows P trail h.attributes o s) :
    Computes (Gen.withShow trail h node) s (Template.withShow s h node) P := by
  unfold Gen.withShow Template.withShow
  cases ha : h.attribute? "v-show" with
  | none => exact pure _
  | some a =>
    have hname : a.name = "v-show" := by simpa using List.find?_some ha
    have hmem : a ∈ h.attributes := List.mem_of_find?_eq_some ha
    cases hvalue : a.value? with
    | none =>
      simp only [hvalue]
      exact throw _
    | some source =>
      simp only [hvalue]
      exact bind (compile (hP a hmem .shown source (.shown hname hvalue))) fun text _ =>
        bind_ok (refer _) (bind_ok (refer _) (pure _))

lemma plainElement {below : Gen (List Render)} {rs : Except Diagnostic (List Render)}
    (hP : Allows P trail h.attributes o s)
    (hbelow : Computes below s rs P) :
    Computes (Gen.plainElement trail h below) s (elementRender s h rs) P := by
  have helement : elementRender s h rs =
      if h.tag = "template" then (rs >>= fun children => .ok (.vnode .fragment [] children))
      else if h.tag = "slot" then slotRender s h rs
      else if h.tag = "component" then .error (.parseError "<component :is> is not supported")
      else properties s h >>= fun entries => (if h.isFilled then .ok [] else rs) >>=
        fun children => Template.withShow s h (.vnode h.tagged entries children) := by
    unfold elementRender
    split
    next htag => rw [if_pos htag]; rfl
    next htag => rw [if_neg (by simp [htag]), if_pos htag]
    next htag => rw [if_neg (by simp [htag]), if_neg (by simp [htag]), if_pos htag]; rfl
    next htemplate hslot hdynamic =>
      rw [if_neg htemplate, if_neg hslot, if_neg hdynamic]
      congr! 2 with entries
      unfold Host.isFilled Host.tagged
      dsimp only
      split <;> rfl
  rw [helement]
  refine ite (fun _ => bind hbelow fun children _ => group children) fun _ => ?_
  refine ite (fun _ => slot hP hbelow) fun _ => ite (fun _ => throw _) fun _ => ?_
  refine bind (props hP) fun entries _ => bind_ok tagOf ?_
  refine bind (under (ite (fun _ => pure []) fun _ => hbelow)) fun children _ => ?_
  exact bind_ok (refer _) (withShow hP)

lemma element {below : Gen (List Render)} {rs : Except Diagnostic (List Render)}
    (hP : Allows P trail h.attributes s (s ++ aliases h.attributes))
    (hentered : ∀ value binder source names, splitLoop? value = some (binder, source) →
      aliasNames binder = .ok names → P (.entered (paramsOf binder) names))
    (hbelow : Computes below (s ++ aliases h.attributes) rs P) :
    Computes (Gen.element trail h below) s (loopedRender s h (loopOf s h) rs) P := by
  unfold Gen.element loopOf
  unfold aliases at hP hbelow
  rw [Host.attribute?]
  cases ha : h.attributes.find? (·.name == "v-for") with
  | none =>
    rw [ha] at hP hbelow
    simp only [List.append_nil] at hP hbelow
    exact plainElement hP hbelow
  | some a =>
    have hname : a.name = "v-for" := by simpa using List.find?_some ha
    have hmem : a ∈ h.attributes := List.mem_of_find?_eq_some ha
    simp only [ha] at hP hbelow
    dsimp only
    cases hsplit : splitLoop? (a.value?.getD "") with
    | none =>
      rw [Loop.ofValue]
      simp only [hsplit]
      exact throw _
    | some pair =>
      obtain ⟨binder, source⟩ := pair
      rw [Loop.ofValue]
      simp only [hsplit] at hP hbelow ⊢
      have hsource : Computes (Gen.compile ⟨trail, .loopSource⟩ source) s (expression s source) P :=
        compile (hP a hmem .loopSource source (.loopSource hname hsplit))
      cases hexpr : expression s source with
      | error e =>
        rw [hexpr] at hsource
        exact bind_error hsource
      | ok text =>
        rw [hexpr] at hsource
        refine bind_ok hsource ?_
        cases hnames : aliasNames binder with
        | error e => exact bind_error (of _)
        | ok names =>
          simp only [hnames, Except.toOption, Option.getD_some] at hP hbelow
          have hparams := hentered _ binder source names hsplit hnames
          exact bind_ok (of (.ok names)) <|
            bind (within hparams (plainElement hP hbelow)) fun item _ =>
              bind_ok (refer _) (bind_ok (refer _) (bind_ok (refer _) (pure _)))

end Gen.Computes

namespace Gen

/-! ## Siblings -/

/-- The stage computes what the branch is. -/
structure Stage.Follows (s : List String) (P : Event → Prop) (b : Branch) (c : Stage) : Prop where
  host : c.host = b.host
  body : Computes c.body s b.result P
  condition : ∀ a ∈ c.host.attributes, ∀ source, Holds a .condition source →
    P (.compiled ⟨c.trail, .condition⟩ source s)

inductive Part.Follows (s : List String) (P : Event → Prop) : Piece → Part → Prop
  | text {blank : Bool} {part : Except Diagnostic TextPart} {g : Gen TextPart}
      (h : Computes g s part P) : Follows s P (.text blank part) (.text blank g)
  | element {b : Branch} {c : Stage} (h : c.Follows s P b) : Follows s P (.element b) (.element c)

variable {s : List String} {P : Event → Prop}

namespace Stage.Follows

variable {b : Branch} {c : Stage}

lemma has_eq (h : c.Follows s P b) (name : String) : c.has name = b.has name := by
  rw [Stage.has, Branch.has, h.host]

lemma continues_eq (h : c.Follows s P b) : c.continues = b.continues := by
  rw [Stage.continues, Branch.continues, h.has_eq, h.has_eq]

lemma computes_condition (h : c.Follows s P b) : Computes c.condition s (b.condition s) P := by
  unfold Stage.condition Branch.condition
  rw [← h.host]
  dsimp only
  cases hvalue : ((c.host.attribute? "v-if").or (c.host.attribute? "v-else-if")).bind
      (·.value?) with
  | none => exact .throw _
  | some source =>
    obtain ⟨a, ha, hsource⟩ := Option.bind_eq_some_iff.1 hvalue
    refine .compile (h.condition a ?_ source (.condition ?_ hsource))
    · rcases Option.or_eq_some_iff.1 ha with ha | ⟨-, ha⟩ <;> exact List.mem_of_find?_eq_some ha
    · rcases Option.or_eq_some_iff.1 ha with ha | ⟨-, ha⟩
      · exact .inl (by simpa using List.find?_some ha)
      · exact .inr (by simpa using List.find?_some ha)

end Stage.Follows

lemma Part.Follows.isText_eq {p : Piece} {q : Part} (h : q.Follows s P p) :
    q.isText = p.isText := by
  cases h <;> rfl

/-- A chain takes the same elements and leaves the same siblings. -/
lemma takeBranches_follows {blanks ps : List Piece} {blanks' ps' : List Part}
    (hblanks : List.Forall₂ (Part.Follows s P) blanks blanks')
    (hps : List.Forall₂ (Part.Follows s P) ps ps') :
    List.Forall₂ (Stage.Follows s P) (Template.takeBranches blanks ps).1
        (Part.takeBranches blanks' ps').1 ∧
      List.Forall₂ (Part.Follows s P) (Template.takeBranches blanks ps).2
        (Part.takeBranches blanks' ps').2 := by
  induction hps generalizing blanks blanks' with
  | nil => exact ⟨.nil, hblanks⟩
  | @cons p q ps qs hp hps ih =>
    cases hp with
    | @text blank part g hpart =>
      cases blank with
      | true => exact ih (List.rel_append hblanks (.cons (.text hpart) .nil))
      | false => exact ⟨.nil, List.rel_append hblanks (.cons (.text hpart) hps)⟩
    | @element b c hbody =>
      rw [Template.takeBranches, Part.takeBranches, hbody.continues_eq, hbody.has_eq]
      by_cases hcontinues : b.continues
      · by_cases helse : b.has "v-else"
        · simp only [hcontinues, helse]
          exact ⟨.cons hbody .nil, hps⟩
        · obtain ⟨hbranches, hrest⟩ := ih .nil
          simp only [hcontinues, helse]
          exact ⟨.cons hbody hbranches, hrest⟩
      · simp only [hcontinues]
        exact ⟨.nil, List.rel_append hblanks (.cons (.element hbody) hps)⟩

lemma computes_conditions {bs : List Branch} {cs : List Stage}
    (h : List.Forall₂ (Stage.Follows s P) bs cs) (no : Render) :
    Computes (cs.foldrM Stage.over no) s (bs.foldrM (Branch.over s) no) P := by
  induction h with
  | nil => exact .pure no
  | cons hb _ ih =>
    rw [List.foldrM_cons, List.foldrM_cons]
    exact ih.bind fun rest _ => hb.computes_condition.bind fun test _ =>
      hb.body.bind fun yes _ => .pure _

lemma computes_conditional {bs : List Branch} {cs : List Stage}
    (h : List.Forall₂ (Stage.Follows s P) bs cs) :
    Computes (conditional cs) s (conditionalOf s bs) P := by
  have hotherwise : Computes otherwise s (.ok .placeholder) P :=
    .bind_ok (.refer _) (.pure _)
  rcases List.eq_nil_or_concat cs with rfl | ⟨init, last, rfl⟩
  · cases h
    exact hotherwise
  rw [List.concat_eq_append] at h ⊢
  -- only the last one may be without a condition, so both lists are cut in front of it
  have hinit := List.forall₂_take_append _ _ _ h
  obtain ⟨b, ds, hlast, hnil, heq⟩ :=
    List.forall₂_cons_right_iff.1 (List.forall₂_drop_append _ _ _ h)
  cases hnil
  obtain ⟨front, rfl⟩ : ∃ front, bs = front ++ [b] :=
    ⟨_, by rw [← heq, List.take_append_drop]⟩
  have hlength : init.length = front.length := by
    have hboth := h.length_eq
    simp only [List.length_append, List.length_singleton] at hboth
    omega
  rw [hlength, List.take_left] at hinit
  simp only [conditional, conditionalOf, List.getLast?_concat, List.dropLast_concat, hlast.has_eq]
  by_cases helse : b.has "v-else"
  · simp only [helse, if_true]
    exact hlast.body.bind fun no _ => computes_conditions hinit no
  · simp only [helse]
    exact .bind_ok hotherwise (computes_conditions h .placeholder)

lemma computes_run {ps : List Piece} {qs : List Part}
    (h : List.Forall₂ (Part.Follows s P) ps qs) :
    Computes ((qs.filterMap Part.part?).mapM id) s ((ps.filterMap Piece.part?).mapM id) P := by
  refine .mapM ?_
  induction h with
  | nil => exact .nil
  | cons hp _ ih =>
    cases hp with
    | text hpart => exact .cons hpart ih
    | element hbody => exact ih

/-- The text pieces at the front, and what is behind them. -/
lemma follows_texts {ps : List Piece} {qs : List Part}
    (h : List.Forall₂ (Part.Follows s P) ps qs) :
    List.Forall₂ (Part.Follows s P) (ps.takeWhile Piece.isText) (qs.takeWhile Part.isText) ∧
      List.Forall₂ (Part.Follows s P) (ps.dropWhile Piece.isText) (qs.dropWhile Part.isText) := by
  induction h with
  | nil => exact ⟨.nil, .nil⟩
  | @cons p q ps qs hp hps ih =>
    have hsame := hp.isText_eq
    by_cases htext : p.isText
    · rw [List.takeWhile_cons_of_pos htext, List.dropWhile_cons_of_pos htext,
        List.takeWhile_cons_of_pos (hsame.trans htext), List.dropWhile_cons_of_pos
        (hsame.trans htext)]
      exact ⟨.cons hp ih.1, ih.2⟩
    · have htext' : ¬ q.isText := by rwa [hsame]
      rw [List.takeWhile_cons_of_neg htext, List.dropWhile_cons_of_neg htext,
        List.takeWhile_cons_of_neg htext', List.dropWhile_cons_of_neg htext']
      exact ⟨.nil, .cons hp hps⟩

/-- Generating siblings puts them in order. -/
theorem computes_siblings {ps : List Piece} {qs : List Part}
    (h : List.Forall₂ (Part.Follows s P) ps qs) : Computes (siblings qs) s (assemble s ps) P := by
  fun_induction assemble s ps generalizing qs with
  | case1 =>
    cases h
    rw [siblings]
    exact .pure []
  | case2 blank part ps run =>
    rename_i ih
    cases h with
    | cons hp hps =>
      cases hp with
      | text hpart =>
        obtain ⟨hrun, hrest⟩ := follows_texts hps
        rw [siblings]
        exact (computes_run (.cons (.text hpart) hrun)).bind fun parts _ =>
          (ih hrest).bind fun below _ => .pure _
  | case3 b ps hif hlt ih =>
    cases h with
    | cons hp hps =>
      cases hp with
      | element hbody =>
        obtain ⟨hbranches, hrest⟩ := takeBranches_follows .nil hps
        rw [siblings, if_pos ((hbody.has_eq _).trans hif)]
        exact (computes_conditional (.cons hbody hbranches)).bind fun node _ =>
          (ih hrest).bind fun below _ => .pure _
  | case4 b ps hif hcontinues =>
    cases h with
    | cons hp hps =>
      cases hp with
      | element hbody =>
        rw [siblings, if_neg (by rwa [hbody.has_eq]), if_pos (hbody.continues_eq.trans hcontinues),
          hbody.host]
        exact .throw _
  | case5 b ps hif hcontinues ih =>
    cases h with
    | cons hp hps =>
      cases hp with
      | element hbody =>
        rw [siblings, if_neg (by rwa [hbody.has_eq]), if_neg (by rwa [hbody.continues_eq])]
        exact hbody.body.bind fun node _ => (ih hps).bind fun below _ => .pure _

end Gen

end Unbundled.Template
