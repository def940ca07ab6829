import Unbundled.Proofs.Template.Lockstep
import Unbundled.Proofs.Template.Demands

/-!
# What the generator notes down is what it has written

Each part of the generator on a stack adds to the demands of the module exactly the helpers and the
components that the part it comes to refers to. Whether a text among children becomes a node is
known only where the children are placed, so a text has its own helpers until then.
-/

namespace Unbundled.Template

open Script (Diagnostic)

/-! ## Helpers of what is being put together -/

lemma helpersAll_values (vs : List Value) : Value.helpersAll vs = vs.flatMap Value.helpers := by
  induction vs with
  | nil => rfl
  | cons v vs ih => rw [Value.helpersAll, ih, List.flatMap_cons]

namespace Props

/-- The helpers of what has been read so far. -/
def helpers (p : Props) : List Helper :=
  p.entries.flatMap Entry.helpers ++ p.classes.flatMap Value.helpers ++
    p.styles.flatMap Value.helpers ++ p.events.flatMap (·.2.helpers)

variable {p : Props} {k : Helper}

lemma helpers_empty : helpers {} = [] := rfl

@[simp] lemma mem_helpers_addEntry {e : Entry} :
    k ∈ (p.addEntry e).helpers ↔ k ∈ p.helpers ∨ k ∈ e.helpers := by
  simp only [helpers, addEntry, List.flatMap_append, List.flatMap_singleton, List.mem_append]
  tauto

@[simp] lemma mem_helpers_addNamed {name : String} {v : Value} :
    k ∈ (p.addNamed name v).helpers ↔ k ∈ p.helpers ∨ k ∈ v.helpers :=
  mem_helpers_addEntry

@[simp] lemma mem_helpers_addEvent {key : String} {v : Value} :
    k ∈ (p.addEvent key v).helpers ↔ k ∈ p.helpers ∨ k ∈ v.helpers := by
  simp only [helpers, addEvent, List.flatMap_append, List.flatMap_singleton, List.mem_append]
  tauto

lemma mem_helpers_mergedEntry {name : String} {vs : List Value} :
    k ∈ (mergedEntry name vs).flatMap Entry.helpers ↔ k ∈ vs.flatMap Value.helpers := by
  match vs with
  | [] => simp [mergedEntry]
  | [v] => simp [mergedEntry, mergedValue, Entry.helpers]
  | v :: w :: vs =>
    simp [mergedEntry, mergedValue, Entry.helpers, Value.helpers, helpersAll_values]

lemma mem_helpers_groupByKey {events : List (String × Value)} :
    k ∈ ((groupByKey events).flatMap fun (key, vs) => mergedEntry key vs).flatMap Entry.helpers ↔
      k ∈ events.flatMap (·.2.helpers) := by
  rw [List.flatMap_assoc]
  simp only [List.mem_flatMap (l := groupByKey events), mem_helpers_mergedEntry]
  simp only [List.mem_flatMap]
  constructor
  · rintro ⟨g, hg, v, hv, hk⟩
    obtain ⟨key, -, rfl⟩ := List.mem_map.1 hg
    obtain ⟨event, hevent, rfl⟩ := List.mem_map.1 hv
    exact ⟨event, (List.mem_filter.1 hevent).1, hk⟩
  · rintro ⟨event, hevent, hk⟩
    have hkey : event.1 ∈ (events.map (·.1)).eraseDups :=
      List.mem_eraseDups.2 (List.mem_map_of_mem hevent)
    exact ⟨_, List.mem_map_of_mem hkey, event.2,
      List.mem_map_of_mem (List.mem_filter.2 ⟨hevent, by simp⟩), hk⟩

/-- Merging values into entries keeps all of their helpers. -/
lemma mem_helpers_toEntries : k ∈ p.toEntries.flatMap Entry.helpers ↔ k ∈ p.helpers := by
  simp only [toEntries, helpers, List.flatMap_append, List.mem_append, mem_helpers_mergedEntry,
    mem_helpers_groupByKey]

end Props

namespace Render

def isText : Render → Bool
  | text _ => true
  | _ => false

/-- The helpers of a child that has not been placed. -/
def ownHelpers : Render → List Helper
  | text parts => parts.flatMap TextPart.helpers
  | r => r.helpers

/-- The helpers that placing the child adds. -/
def placedHelpers : Render → List Helper
  | text _ => [.createTextVNode]
  | _ => []

lemma ownHelpers_of_not_text {r : Render} (h : r.isText = false) : r.ownHelpers = r.helpers := by
  cases r with
  | text => cases h
  | _ => rfl

lemma mem_helpersAll {k : Helper} {rs : List Render} : k ∈ helpersAll rs ↔
    k ∈ rs.flatMap ownHelpers ∨ k ∈ rs.flatMap placedHelpers := by
  induction rs with
  | nil => simp [helpersAll]
  | cons r rs ih =>
    have hr : k ∈ r.helpers ↔ k ∈ r.ownHelpers ∨ k ∈ r.placedHelpers := by
      cases r <;> simp [helpers, ownHelpers, placedHelpers, or_comm]
    simp only [helpersAll, List.flatMap_cons, List.mem_append, ih, hr]
    tauto

lemma childrenHelpers_of_placed {tag : Tag} {rs : List Render}
    (h : ∀ name parts, tag = .element name → rs = [text parts] → False) :
    childrenHelpers tag rs = helpersAll rs := by
  match rs with
  | [] => rfl
  | r :: rs =>
    unfold childrenHelpers
    split
    · exact absurd rfl (h _ _ rfl)
    · rfl

lemma childrenHelpers_fragment (rs : List Render) :
    childrenHelpers .fragment rs = helpersAll rs :=
  childrenHelpers_of_placed nofun

end Render

namespace Gen

/-! ## Properties -/

namespace Ensures

variable {pre : Demands → Prop} {n : Demands} {trail : List Node} {h : Host} {v : Value} {p : Props}
  {hs : List Helper} {tags : List String}

lemma key {name : String} : Ensures pre (Gen.key trail name) fun _ => pre := by
  unfold Gen.key
  split
  · exact ite (map compile) (pure fun _ => id)
  · exact pure fun _ => id

lemma addProperty {name : String} (hv : v.helpers = []) :
    Ensures (· = n.add p.helpers []) (Gen.addProperty trail p name v)
      fun p' m => m = n.add p'.helpers [] := by
  unfold Gen.addProperty
  refine ite (noted fun k => ?_) (ite (noted fun k => ?_) ?_)
  · simp [Props.helpers, hv]
  · simp [Props.helpers, hv]
  · refine map (key.weaken fun key m hm => hm.trans (Demands.add_congr fun k => ?_))
    simp [Entry.helpers, hv]

lemma inline {value : String} :
    Ensures pre (Gen.inline trail value) fun v m => v.helpers = [] ∧ pre m := by
  refine outcome_scopeWith.bind fun r => ?_
  cases r with
  | ok e => exact pure fun _ hm => ⟨rfl, hm⟩
  | error e =>
    refine outcome_scopeWith.bind fun r => ?_
    cases r with
    | ok statements => exact pure fun _ hm => ⟨rfl, hm⟩
    | error e => exact throw _

lemma handler {value? : Option String} :
    Ensures pre (Gen.handler trail value?) fun v m => v.helpers = [] ∧ pre m :=
  ite (pure fun _ hm => ⟨rfl, hm⟩) <|
    ite (map (compile.weaken fun _ _ hm => ⟨rfl, hm⟩)) (pushing inline)

lemma radioValue : Ensures pre (Gen.radioValue trail h) fun v m => v.helpers = [] ∧ pre m := by
  unfold Gen.radioValue
  split
  · exact map (compile.weaken fun _ _ hm => ⟨rfl, hm⟩)
  · exact pure fun _ hm => ⟨rfl, hm⟩

lemma model {value : String} {modifiers : List String} :
    Ensures (· = n.add p.helpers []) (Gen.model trail h p value modifiers)
      fun p' m => m = n.add p'.helpers [] := by
  have hadds {name event : String} {v w : Value} (hv : v.helpers = []) (hw : w.helpers = [])
      (k : Helper) : k ∈ p.helpers ↔ k ∈ ((p.addNamed name v).addEvent event w).helpers := by
    simp [hv, hw]
  unfold Gen.model
  refine ite (compile.bind fun target => ?_) (throw _)
  refine ite (noted (hadds rfl rfl)) <| ite (noted (hadds rfl rfl)) <| ite ?_ <|
    ite (noted (hadds rfl rfl)) (throw _)
  refine radioValue.bind fun own => pure fun m ⟨hown, hm⟩ =>
    hm.trans (Demands.add_congr (hadds ?_ ?_)) <;> rwa [Value.helpers]

lemma valueOf {a : Markup.Attribute} : Ensures pre (Gen.valueOf trail h a) fun _ => pre :=
  (of _).bind fun _ => compile

lemma guarded {modifiers : List String} :
    Ensures (· = n.add v.helpers []) (Gen.guarded modifiers v)
      fun w m => m = n.add w.helpers [] := by
  refine ite (pure fun _ => id) ((refer _).bind fun _ => noted fun k => ?_)
  simp [Value.helpers, or_comm]

lemma keyed {keys : List String} :
    Ensures (· = n.add v.helpers []) (Gen.keyed keys v) fun w m => m = n.add w.helpers [] := by
  refine ite (pure fun _ => id) ((refer _).bind fun _ => noted fun k => ?_)
  simp [Value.helpers, or_comm]

lemma wrapped {modifiers : List String} :
    Ensures (· = n.add v.helpers []) (Gen.wrapped modifiers v) fun w m => m = n.add w.helpers [] :=
  guarded.bind fun _ => keyed

lemma addAttribute {a : Markup.Attribute} :
    Ensures (· = n.add p.helpers []) (Gen.addAttribute trail h p a)
      fun p' m => m = n.add p'.helpers [] := by
  unfold Gen.addAttribute
  cases Directive.ofName a.name with
  | none => exact pure fun _ => id
  | html => exact valueOf.bind fun source => noted fun k => by simp [Value.helpers]
  | textContent =>
    exact valueOf.bind fun source => (refer _).bind fun _ =>
      noted fun k => by simp [Value.helpers]
  | bindAll => exact valueOf.bind fun source => noted fun k => by simp [Entry.helpers]
  | model modifiers => exact (of _).bind fun value => model
  | bind name modifiers => exact compile.bind fun source => addProperty rfl
  | on event modifiers =>
    refine ite (throw _) (handler.bind fun v => from_eq ?_)
    rintro m ⟨hv, rfl⟩
    have hwrapped : Ensures (· = (n.add p.helpers []).add v.helpers []) (Gen.wrapped modifiers v)
        fun w m => m = (n.add p.helpers []).add w.helpers [] := wrapped
    rw [hv, Demands.add_nil] at hwrapped
    refine hwrapped.bind fun w => ?_
    rw [Demands.add_add]
    exact noted fun k => by simp
  | unsupported => exact throw _
  | plain => exact addProperty rfl

lemma props : Ensures (· = n) (Gen.props trail h)
    fun es m => m = n.add (es.flatMap Entry.helpers) [] := by
  have hread : Ensures (· = n.add (Props.helpers {}) [])
      (h.attributes.foldlM (Gen.addAttribute trail h) {}) fun p m => m = n.add p.helpers [] :=
    foldlM (fun _ _ _ => addAttribute) {}
  rw [Props.helpers_empty, Demands.add_nil] at hread
  exact map (hread.weaken fun p m hm =>
    hm.trans (Demands.add_congr fun k => Props.mem_helpers_toEntries.symm))

end Ensures

/-! ## Elements -/

/-- What `g` makes is a node, and `g` notes down what the node refers to. -/
def NotesNode (g : Gen Render) : Prop := ∀ n, Ensures (· = n) g fun r m =>
  r.isText = false ∧ m = n.add r.helpers r.components

/-- `g` notes down what the children refer to before they are placed. -/
def NotesChildren (g : Gen (List Render)) : Prop := ∀ n, Ensures (· = n) g fun rs m =>
  m = n.add (rs.flatMap Render.ownHelpers) (Render.componentsAll rs)

section

variable {n : Demands} {hs : List Helper} {tags : List String} {trail : List Node} {h : Host}
  {below : Gen (List Render)}

/-- A node is made when all that it refers to has been noted down. -/
lemma ensures_node {r : Render} (hr : r.isText = false) (htags : tags = r.components)
    (h : ∀ k, k ∈ hs ↔ k ∈ r.helpers) : Ensures (· = n.add hs tags) (pure r)
      fun r m => r.isText = false ∧ m = n.add r.helpers r.components :=
  .pure fun _ hm => ⟨hr, hm.trans (htags ▸ Demands.add_congr h)⟩

lemma ensures_place (rs : List Render) : Ensures (· = n.add hs tags) (place rs)
    fun _ m => m = n.add (hs ++ rs.flatMap Render.placedHelpers) tags := by
  fun_induction place rs generalizing hs with
  | case1 => exact .pure fun m hm => by simpa using hm
  | case2 parts rs ih =>
    refine (Ensures.refer _).bind fun _ => ih.weaken fun _ m hm => ?_
    simpa [Render.placedHelpers] using hm
  | case3 r rs hr ih =>
    refine ih.weaken fun _ m hm => ?_
    have hplaced : r.placedHelpers = [] := by
      cases r with
      | text parts => exact absurd rfl (hr parts)
      | _ => rfl
    simpa [hplaced] using hm

/-- Children that have been made and are placed refer to all of their helpers. -/
lemma ensures_placed (rs : List Render) :
    Ensures (· = n.add (hs ++ rs.flatMap Render.ownHelpers) tags) (place rs)
      fun _ m => m = n.add (hs ++ Render.helpersAll rs) tags := by
  refine (ensures_place rs).weaken fun _ m hm => ?_
  rw [hm, List.append_assoc]
  exact Demands.add_congr fun k => by simp only [List.mem_append, Render.mem_helpersAll]

lemma ensures_group (rs : List Render) :
    Ensures (· = n.add (rs.flatMap Render.ownHelpers) (Render.componentsAll rs)) (group rs)
      fun r m => r.isText = false ∧ m = n.add r.helpers r.components := by
  have hplaced : Ensures (· = n.add ([] ++ rs.flatMap Render.ownHelpers) (Render.componentsAll rs))
      (place rs) fun _ m => m = n.add ([] ++ Render.helpersAll rs) (Render.componentsAll rs) :=
    ensures_placed rs
  refine hplaced.bind fun _ => (Ensures.refer _).bind fun _ =>
    (Ensures.refer _).bind fun _ => ensures_node rfl rfl fun k => ?_
  simp only [Render.helpers, Render.childrenHelpers_fragment, Tag.helpers, List.flatMap_nil,
    List.mem_append, List.mem_cons, List.not_mem_nil]
  tauto

lemma notes_slot (hbelow : NotesChildren below) : NotesNode (slot trail h below) := by
  intro n
  refine Ensures.props.bind fun entries => .from_eq ?_
  rintro _ rfl
  refine (hbelow _).bind fun rs => ?_
  rw [Demands.add_add]
  refine (ensures_placed rs).bind fun _ => (Ensures.refer _).bind fun _ =>
    ensures_node rfl rfl fun k => ?_
  simp only [Render.helpers, List.mem_append, List.mem_cons, List.not_mem_nil]
  tauto

lemma ensures_tagOf : Ensures (· = n.add hs []) (tagOf h)
    fun tag m => tag.helpers = [] ∧ m = n.add hs tag.components :=
  .ite ((Ensures.resolve _).bind fun _ => .pure fun _ hm => ⟨rfl, hm⟩) (.pure fun _ hm => ⟨rfl, hm⟩)

lemma ensures_under {tag : Tag} (hbelow : NotesChildren below) :
    Ensures (· = n.add hs tags) (under tag below) fun rs m =>
      m = n.add (hs ++ Render.childrenHelpers tag rs) (tags ++ Render.componentsAll rs) := by
  refine .from_eq ?_
  rintro _ rfl
  refine (hbelow _).bind fun rs => ?_
  rw [Demands.add_add]
  split
  next name parts =>
    exact .pure fun m hm => by simpa [Render.ownHelpers, Render.childrenHelpers] using hm
  next hplaced =>
    refine (ensures_placed rs).bind fun _ => .pure fun m hm => ?_
    rwa [Render.childrenHelpers_of_placed hplaced]

lemma ensures_withShow {tag : Tag} {es : List Entry} {rs : List Render} :
    Ensures (· = n.add (Render.vnode tag es rs).helpers (Render.vnode tag es rs).components)
      (withShow trail h (.vnode tag es rs))
      fun r m => r.isText = false ∧ m = n.add r.helpers r.components := by
  unfold withShow
  split
  · exact .pure fun _ hm => ⟨rfl, hm⟩
  split
  · exact .throw _
  · refine Ensures.compile.bind fun condition => (Ensures.refer _).bind fun _ =>
      (Ensures.refer _).bind fun _ => ensures_node rfl rfl fun k => ?_
    simp only [Render.helpers, List.mem_append, List.mem_cons, List.not_mem_nil]
    tauto

lemma notesChildren_nil : NotesChildren (pure []) := fun n => .pure fun m hm => by
  simpa [Render.componentsAll] using hm

lemma notes_plainElement (hbelow : NotesChildren below) :
    NotesNode (plainElement trail h below) := by
  intro n
  refine .ite ((hbelow n).bind fun rs => ensures_group rs) ?_
  refine .ite (notes_slot hbelow n) (.ite (.throw _) ?_)
  have hown : NotesChildren (if h.isFilled then pure [] else below) := fun n =>
    .ite (notesChildren_nil n) (hbelow n)
  refine Ensures.props.bind fun entries => ensures_tagOf.bind fun tag => .from_eq ?_
  rintro _ ⟨htag, rfl⟩
  refine (ensures_under hown).bind fun rs => (Ensures.refer _).bind fun _ => ?_
  have hnode : n.add (entries.flatMap Entry.helpers ++ Render.childrenHelpers tag rs ++
      [.createVNode]) (tag.components ++ Render.componentsAll rs) =
        n.add (Render.vnode tag entries rs).helpers (Render.vnode tag entries rs).components := by
    refine Demands.add_congr fun k => ?_
    simp only [Render.helpers, htag, List.mem_append, List.mem_cons, List.not_mem_nil]
    tauto
  rw [hnode]
  exact ensures_withShow

lemma notes_element (hbelow : NotesChildren below) : NotesNode (element trail h below) := by
  unfold element
  split
  · exact notes_plainElement hbelow
  split
  · exact fun n => .throw _
  intro n
  refine Ensures.compile.bind fun source => (Ensures.of _).bind fun names =>
    (Ensures.within (notes_plainElement hbelow n)).bind fun item => .from_eq ?_
  rintro _ ⟨-, rfl⟩
  refine (Ensures.refer _).bind fun _ => (Ensures.refer _).bind fun _ =>
    (Ensures.refer _).bind fun _ => ensures_node rfl rfl fun k => ?_
  simp only [Render.helpers, List.mem_append, List.mem_cons, List.not_mem_nil]
  tauto

end

/-! ## Siblings -/

def Part.Notes : Part → Prop
  | .text _ part => ∀ n, Ensures (· = n) part fun p m => m = n.add p.helpers []
  | .element b => NotesNode b.body

lemma forall_takeBranches {P : Part → Prop} (blanks ps : List Part) (hblanks : ∀ p ∈ blanks, P p)
    (hps : ∀ p ∈ ps, P p) :
    (∀ b ∈ (Part.takeBranches blanks ps).1, P (.element b)) ∧
      ∀ p ∈ (Part.takeBranches blanks ps).2, P p := by
  fun_induction Part.takeBranches blanks ps with
  | case1 blanks => exact ⟨by simp, hblanks⟩
  | case2 blanks part ps ih =>
    simp only [List.forall_mem_cons] at hps
    refine ih (fun p hp => ?_) hps.2
    rcases List.mem_append.1 hp with hp | hp
    · exact hblanks p hp
    · rw [List.mem_singleton.1 hp]
      exact hps.1
  | case3 blanks part ps => exact ⟨by simp, List.forall_mem_append.2 ⟨hblanks, hps⟩⟩
  | case4 blanks b ps => exact ⟨by simp, List.forall_mem_append.2 ⟨hblanks, hps⟩⟩
  | case5 blanks b ps =>
    simp only [List.forall_mem_cons] at hps
    exact ⟨by simpa using hps.1, hps.2⟩
  | case6 blanks b ps _ _ bs rest hrest ih =>
    simp only [List.forall_mem_cons] at hps
    rw [hrest] at ih
    obtain ⟨hbs, hafter⟩ := ih (by simp) hps.2
    exact ⟨List.forall_mem_cons.2 ⟨hps.1, hbs⟩, hafter⟩

lemma ensures_condition {pre : Demands → Prop} {b : Stage} :
    Ensures pre b.condition fun _ => pre := by
  unfold Stage.condition
  dsimp only
  split
  · exact .compile
  · exact .throw _

/-- The conditions of a chain, on top of what is chosen where they fail. -/
lemma ensures_conditions {n : Demands} {bs : List Stage} (hbs : ∀ b ∈ bs, NotesNode b.body)
    (no : Render) : Ensures (fun m => no.isText = false ∧ m = n.add no.helpers no.components)
      (bs.foldrM Stage.over no) fun r m => r.isText = false ∧ m = n.add r.helpers r.components := by
  induction bs with
  | nil => exact .pure fun _ hm => hm
  | cons b bs ih =>
    rw [List.forall_mem_cons] at hbs
    rw [List.foldrM_cons]
    refine (ih hbs.2).bind fun rest => .from_eq ?_
    rintro _ ⟨-, rfl⟩
    refine ensures_condition.bind fun test => (hbs.1 _).bind fun yes => .from_eq ?_
    rintro _ ⟨-, rfl⟩
    rw [Demands.add_add]
    refine ensures_node rfl rfl fun k => ?_
    simp only [Render.helpers, List.mem_append]
    tauto

lemma notes_otherwise : NotesNode otherwise := fun _ =>
  (Ensures.refer_first _).bind fun _ => .pure fun _ hm => ⟨rfl, hm⟩

lemma notes_conditional {bs : List Stage} (hbs : ∀ b ∈ bs, NotesNode b.body) :
    NotesNode (conditional bs) := by
  intro n
  unfold conditional
  split
  next last hlast =>
    have hmem : last ∈ bs := List.mem_of_getLast? hlast
    refine .ite ((hbs last hmem n).bind fun no => ?_) ((notes_otherwise n).bind fun no => ?_)
    · exact ensures_conditions (fun b hb => hbs b (List.dropLast_subset _ hb)) no
    · exact ensures_conditions hbs no
  next => exact notes_otherwise n

/-- Texts side by side become one text. -/
lemma ensures_run {n : Demands} {gs : List (Gen TextPart)}
    (hgs : ∀ g ∈ gs, ∀ n, Ensures (· = n) g fun p m => m = n.add p.helpers []) :
    Ensures (· = n) (gs.mapM id) fun ps m => m = n.add (ps.flatMap TextPart.helpers) [] := by
  induction gs generalizing n with
  | nil => exact .pure fun m hm => by simpa using hm
  | cons g gs ih =>
    rw [List.forall_mem_cons] at hgs
    rw [List.mapM_cons]
    refine (hgs.1 n).bind fun p => (ih hgs.2).bind fun ps => .pure fun m hm => ?_
    simpa [Demands.add_add] using hm

lemma ensures_followed {n : Demands} {g : Gen Render} {rest : Gen (List Render)}
    (hg : NotesNode g) (hrest : NotesChildren rest) :
    Ensures (· = n) (g >>= fun r => rest >>= fun rs => pure (r :: rs)) fun rs m =>
      m = n.add (rs.flatMap Render.ownHelpers) (Render.componentsAll rs) := by
  refine (hg n).bind fun r => .from_eq ?_
  rintro _ ⟨hr, rfl⟩
  refine (hrest _).bind fun rs => .pure fun m hm => ?_
  rw [hm, Demands.add_add, List.flatMap_cons, Render.ownHelpers_of_not_text hr,
    Render.componentsAll]

/-- Siblings note down what they refer to, one after the other. -/
theorem notes_siblings {ps : List Part} (hps : ∀ p ∈ ps, p.Notes) :
    NotesChildren (siblings ps) := by
  fun_induction siblings ps with
  | case1 => exact notesChildren_nil
  | case2 blank part ps run ih =>
    have hrun : ∀ g ∈ run, ∀ n, Ensures (· = n) g fun p m => m = n.add p.helpers [] := by
      intro g hg
      obtain ⟨p, hp, hpart⟩ := List.mem_filterMap.1 hg
      have hnotes := hps p (List.cons_subset_cons _ (List.takeWhile_subset _) hp)
      cases p with
      | text =>
        cases hpart
        exact hnotes
      | element => cases hpart
    have hrest : ∀ p ∈ ps.dropWhile Part.isText, p.Notes := fun p hp =>
      hps p (List.mem_cons_of_mem _ (List.dropWhile_subset _ hp))
    intro n
    refine (ensures_run hrun).bind fun parts => (ih hrest _).bind fun rs => .pure fun m hm => ?_
    rw [hm, Demands.add_add]
    rfl
  | case3 b ps hif hlt ih =>
    obtain ⟨hb, hps⟩ := List.forall_mem_cons.1 hps
    obtain ⟨hbs, hrest⟩ := forall_takeBranches [] ps (by simp) hps
    exact fun n =>
      ensures_followed (notes_conditional (List.forall_mem_cons.2 ⟨hb, hbs⟩)) (ih hrest)
  | case4 => exact fun n => .throw _
  | case5 b ps hif hcontinues ih =>
    obtain ⟨hb, hps⟩ := List.forall_mem_cons.1 hps
    exact fun n => ensures_followed hb (ih hps)

end Gen

mutual

theorem notes_toPart (trail : List Node) : (n : Node) → (n.toPart trail).Notes
  | .text content => fun n => .pure fun m hm => by simpa [TextPart.helpers] using hm
  | .interpolation source => fun n => by
    exact Gen.Ensures.compile.bind fun text =>
      (Gen.Ensures.refer_first _).bind fun _ => .pure fun _ hm => hm
  | .element tag as cs => Gen.notes_element (Gen.notes_siblings (notes_toParts _ cs))

theorem notes_toParts (trail : List Node) : (ns : List Node) → ∀ p ∈ Node.toParts trail ns, p.Notes
  | [] => by simp [Node.toParts]
  | n :: ns => List.forall_mem_cons.2 ⟨notes_toPart trail n, notes_toParts trail ns⟩

end

/-! ## The module -/

/-- What the render function demands to return `root?`. -/
def rootDemands (root? : Option Render) : Demands :=
  Demands.add {} ((root?.map Render.helpers).getD []) ((root?.map Render.components).getD [])

/-- The constants of components need a helper as well. -/
def Demands.withConstants (n : Demands) : Demands :=
  n.add (n.components.map fun _ => .resolveComponent) []

lemma components_rootDemands (root? : Option Render) :
    (rootDemands root?).components = rootComponents root? := by
  cases root? <;> simp [rootDemands, Demands.add, Demands.foldl_addComponent, rootComponents]

/-- What has been noted down is what the text of the module is made with. -/
lemma imports_rootDemands (root? : Option Render) :
    (rootDemands root?).withConstants.imports = rootHelpers root? := by
  cases root? with
  | none => decide
  | some r =>
    refine List.filter_congr fun k _ => ?_
    rw [Demands.withConstants, components_rootDemands, Bool.eq_iff_iff]
    cases hr : r.components with
    | nil => simp [rootDemands, Demands.add, rootComponents, hr]
    | cons tag tags =>
      simp [rootDemands, Demands.add, rootComponents, hr, List.eraseDups_cons]
      tauto

namespace Gen

theorem notes_children (trail ns : List Node) : NotesChildren (children trail ns) :=
  notes_siblings (notes_toParts trail ns)

lemma ensures_root (rs : List Render) :
    Ensures (· = Demands.add {} (rs.flatMap Render.ownHelpers) (Render.componentsAll rs)) (root rs)
      fun root? m => m = rootDemands root? := by
  unfold root
  split
  · exact .pure fun _ hm => hm
  · exact .map ((ensures_group _).weaken fun _ _ hm => hm.2)
  next r hr =>
    have htext : r.isText = false := by
      cases r with
      | text parts => exact absurd rfl (hr parts)
      | _ => rfl
    refine .pure fun m hm => ?_
    simpa [rootDemands, Render.ownHelpers_of_not_text htext, Render.componentsAll] using hm
  · exact .map ((ensures_group _).weaken fun _ _ hm => hm.2)

lemma run_resolveAll (tags s : List String) (n : Demands) (log : List Event) :
    (resolveAll tags).run.run ⟨s, n, log⟩ =
      (.ok (), ⟨s, n.add (tags.map fun _ => .resolveComponent) [], log⟩) := by
  induction tags generalizing n with
  | nil =>
    rw [List.map_nil, Demands.add_nil]
    rfl
  | cons tag tags ih =>
    have hrefer : (refer .resolveComponent).run.run ⟨s, n, log⟩ =
        (.ok (), ⟨s, n.add [.resolveComponent] [], log⟩) := rfl
    rw [resolveAll, run_bind_ok hrefer, ih, Demands.add_add]
    rfl

/-- The module is written with what has been noted down. -/
lemma run_declare (root? : Option Render) (s : List String) (n : Demands) (log : List Event) :
    (declare root?).run.run ⟨s, n, log⟩ =
      (.ok (moduleWith n.withConstants.imports n.components root?),
        ⟨s, n.withConstants, log⟩) := by
  have hget (st : Generator) : (get : Gen Generator).run.run st = (.ok st, st) := rfl
  rw [declare, run_bind_ok (hget _), run_bind_ok (run_resolveAll _ _ _ _), run_bind_ok (hget _)]
  rfl

end Gen

end Unbundled.Template
