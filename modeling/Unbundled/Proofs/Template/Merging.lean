import Mathlib.Data.List.Induction
import Unbundled.Proofs.Template.DirectiveNames

/-!
# Merging the properties of an element

Each attribute has a share in the object of properties, and the share depends on no other
attribute: an entry, a class, a style, a handler, or an entry and a handler for a binding in both
directions. The object lists the entries in the order of the attributes. Behind them stand the
classes and the styles, merged into one entry each, and one entry for each event. This speaks of
entries before they are written: a value with a comma of its own is written without parentheses, and
the text behind the comma is then read as another entry.
-/

namespace Unbundled.Template

/-! ## The share of an attribute -/

/-- The name of a bound property, with its hyphens or without. -/
def boundName (name : String) (modifiers : List String) : String :=
  if modifiers.contains "camel" then camelize name else name

/-- The share of the attribute `a` in the properties of `h`. -/
inductive Contributes (scope : List String) (h : Host) (a : Markup.Attribute) : Props → Prop
  | structural (hname : a.name ∈ Directive.structural) : Contributes scope h a {}
  | html {source text : String} (hname : Directive.Spelt a.name .html)
      (hsource : required h.tag a.name a.value? = .ok source)
      (htext : expression scope source = .ok text) :
      Contributes scope h a { entries := [.property (.named "innerHTML") (.source text)] }
  | textContent {source text : String} (hname : Directive.Spelt a.name .textContent)
      (hsource : required h.tag a.name a.value? = .ok source)
      (htext : expression scope source = .ok text) :
      Contributes scope h a { entries := [.property (.named "textContent") (.display text)] }
  | bindAll {source text : String} (hname : Directive.Spelt a.name .bindAll)
      (hsource : required h.tag a.name a.value? = .ok source)
      (htext : expression scope source = .ok text) :
      Contributes scope h a { entries := [.spread text] }
  | model {modifiers : List String} {source target name event : String} {v w : Value}
      (hname : Directive.Spelt a.name (.model modifiers))
      (hsource : required h.tag a.name a.value? = .ok source)
      (hpath : isSimplePath (Text.trim source) = true)
      (htarget : expression scope (Text.trim source) = .ok target)
      (hmodel : Models scope h target modifiers name v event w) :
      Contributes scope h a
        { entries := [.property (.named name) v], events := [(event, .assign target w)] }
  | bind {name text : String} {modifiers : List String} {share : Props}
      (hname : Directive.Spelt a.name (.bind name modifiers))
      (htext : expression scope (a.value?.getD (camelize (boundName name modifiers))) = .ok text)
      (hshare : Assigns scope (.source text) (boundName name modifiers) share) :
      Contributes scope h a share
  | on {event : String} {modifiers : List String} {v : Value}
      (hname : Directive.Spelt a.name (.on event modifiers))
      (hevent : event.startsWith "[" = false) (hv : handler scope a.value? = .ok v) :
      Contributes scope h a { events := [(handlerKey event modifiers, guardHandler modifiers v)] }
  | plain {share : Props} (hname : Directive.Spelt a.name .plain)
      (hshare : Assigns scope (.literal (a.value?.getD "")) a.name share) :
      Contributes scope h a share

variable {scope : List String} {h : Host} {a : Markup.Attribute} {p p' : Props}

/-- What an attribute adds does not depend on what is there. -/
lemma add_eq_ok :
    p.add scope h a = .ok p' ↔ ∃ share, Contributes scope h a share ∧ p' = p.append share := by
  constructor
  · intro hp
    have hspelt {d : Directive} (hname : Directive.ofName a.name = d) (hd : d ≠ .unsupported) :
        Directive.Spelt a.name d := (Directive.ofName_eq_iff hd).1 hname
    unfold Props.add at hp
    split at hp
    next hname =>
      cases hp
      exact ⟨{}, .structural ((Directive.ofName_eq_none_iff _).1 hname), p.append_empty.symm⟩
    next hname =>
      obtain ⟨text, htext, hp⟩ := bind_eq_ok.1 hp
      obtain ⟨source, hsource, htext⟩ := bind_eq_ok.1 htext
      cases hp
      exact ⟨_, .html (hspelt hname nofun) hsource htext, (p.append_entry _).symm⟩
    next hname =>
      obtain ⟨text, htext, hp⟩ := bind_eq_ok.1 hp
      obtain ⟨source, hsource, htext⟩ := bind_eq_ok.1 htext
      cases hp
      exact ⟨_, .textContent (hspelt hname nofun) hsource htext, (p.append_entry _).symm⟩
    next hname =>
      obtain ⟨text, htext, hp⟩ := bind_eq_ok.1 hp
      obtain ⟨source, hsource, htext⟩ := bind_eq_ok.1 htext
      cases hp
      exact ⟨_, .bindAll (hspelt hname nofun) hsource htext, (p.append_entry _).symm⟩
    next modifiers hname =>
      obtain ⟨source, hsource, hp⟩ := bind_eq_ok.1 hp
      obtain ⟨hpath, target, name, v, event, w, htarget, hmodel, rfl⟩ := addModel_eq_ok.1 hp
      exact ⟨_, .model (hspelt hname nofun) hsource hpath htarget hmodel,
        (p.append_entry_event _ _ _).symm⟩
    next name modifiers hname =>
      obtain ⟨text, htext, hp⟩ := bind_eq_ok.1 hp
      obtain ⟨share, hshare, rfl⟩ := addProperty_eq_ok.1 hp
      exact ⟨share, .bind (hspelt hname nofun) htext hshare, rfl⟩
    next event modifiers hname =>
      dsimp only at hp
      split at hp
      · cases hp
      next hevent =>
      obtain ⟨v, hv, hp⟩ := bind_eq_ok.1 hp
      cases hp
      exact ⟨_, .on (hspelt hname nofun) (Bool.eq_false_iff.2 hevent) hv, (p.append_event _ _).symm⟩
    next => cases hp
    next hname =>
      obtain ⟨share, hshare, rfl⟩ := addProperty_eq_ok.1 hp
      exact ⟨share, .plain (hspelt hname nofun) hshare, rfl⟩
  · rintro ⟨share, hshare, rfl⟩
    unfold Props.add
    cases hshare with
    | structural hname =>
      rw [(Directive.ofName_eq_none_iff _).2 hname, p.append_empty]
      rfl
    | html hname hsource htext =>
      rw [Directive.ofName_of_spelt hname, p.append_entry]
      exact bind_eq_ok.2 ⟨_, bind_eq_ok.2 ⟨_, hsource, htext⟩, rfl⟩
    | textContent hname hsource htext =>
      rw [Directive.ofName_of_spelt hname, p.append_entry]
      exact bind_eq_ok.2 ⟨_, bind_eq_ok.2 ⟨_, hsource, htext⟩, rfl⟩
    | bindAll hname hsource htext =>
      rw [Directive.ofName_of_spelt hname, p.append_entry]
      exact bind_eq_ok.2 ⟨_, bind_eq_ok.2 ⟨_, hsource, htext⟩, rfl⟩
    | model hname hsource hpath htarget hmodel =>
      rw [Directive.ofName_of_spelt hname, p.append_entry_event]
      exact bind_eq_ok.2
        ⟨_, hsource, addModel_eq_ok.2 ⟨hpath, _, _, _, _, _, htarget, hmodel, rfl⟩⟩
    | bind hname htext hshare =>
      rw [Directive.ofName_of_spelt hname]
      exact bind_eq_ok.2 ⟨_, htext, addProperty_eq_ok.2 ⟨_, hshare, rfl⟩⟩
    | on hname hevent hv =>
      rw [Directive.ofName_of_spelt hname, p.append_event]
      dsimp only
      rw [if_neg (Bool.eq_false_iff.1 hevent)]
      exact bind_eq_ok.2 ⟨_, hv, rfl⟩
    | plain hname hshare =>
      rw [Directive.ofName_of_spelt hname]
      exact addProperty_eq_ok.2 ⟨_, hshare, rfl⟩

/-! ## All attributes -/

/-- The properties of `p`, followed by the shares. -/
def Props.extend (p : Props) (shares : List Props) : Props where
  entries := p.entries ++ shares.flatMap Props.entries
  classes := p.classes ++ shares.flatMap Props.classes
  styles := p.styles ++ shares.flatMap Props.styles
  events := p.events ++ shares.flatMap Props.events

lemma Props.extend_cons (p share : Props) (shares : List Props) :
    p.extend (share :: shares) = (p.append share).extend shares := by
  simp [extend, append]

lemma foldlM_add_eq_ok {as : List Markup.Attribute} :
    as.foldlM (Props.add scope h) p = .ok p' ↔
      ∃ shares, List.Forall₂ (Contributes scope h) as shares ∧ p' = p.extend shares := by
  induction as generalizing p with
  | nil =>
    constructor
    · intro hp
      cases hp
      exact ⟨[], .nil, by simp [Props.extend]⟩
    · rintro ⟨shares, hshares, rfl⟩
      cases hshares
      simp [Props.extend, pure, Except.pure]
  | cons a as ih =>
    rw [List.foldlM_cons, bind_eq_ok]
    constructor
    · rintro ⟨q, hq, hrest⟩
      obtain ⟨share, hshare, rfl⟩ := add_eq_ok.1 hq
      obtain ⟨shares, hshares, rfl⟩ := ih.1 hrest
      exact ⟨share :: shares, .cons hshare hshares, (p.extend_cons _ _).symm⟩
    · rintro ⟨shares, hshares, rfl⟩
      cases hshares with
      | cons hshare hshares =>
        exact ⟨_, add_eq_ok.2 ⟨_, hshare, rfl⟩, ih.2 ⟨_, hshares, p.extend_cons _ _⟩⟩

/-! ## Merging -/

/-- Values under one name: one stands alone, several in an array. -/
inductive Merges (name : String) : List Value → List Entry → Prop
  | none : Merges name [] []
  | one (v : Value) : Merges name [v] [.property (.named name) v]
  | several {vs : List Value} (hvs : 2 ≤ vs.length) :
      Merges name vs [.property (.named name) (.several vs)]

lemma merges_mergedEntry (name : String) (vs : List Value) :
    Merges name vs (mergedEntry name vs) := by
  match vs with
  | [] => exact .none
  | [v] => exact .one v
  | v :: w :: vs => exact .several (by simp)

/-- One group for each key of an event, in the order in which the keys first occur, with all
handlers of the key in order. -/
structure Grouped (events : List (String × Value)) (groups : List (String × List Value)) :
    Prop where
  keys : ∀ key, key ∈ groups.map (·.1) ↔ key ∈ events.map (·.1)
  order : (groups.map (·.1)).Pairwise fun k l =>
    (events.map (·.1)).idxOf k < (events.map (·.1)).idxOf l
  handlers : ∀ g ∈ groups, g.2 = (events.filter (·.1 == g.1)).map (·.2)

/-- Without its repetitions a list is in the order of first occurrence. -/
lemma pairwise_eraseDups (keys : List String) :
    keys.eraseDups.Pairwise fun k l => keys.idxOf k < keys.idxOf l := by
  induction keys using List.reverseRecOn with
  | nil => exact .nil
  | append_singleton keys key ih =>
    have hold : keys.eraseDups.Pairwise fun k l =>
        (keys ++ [key]).idxOf k < (keys ++ [key]).idxOf l := by
      refine ih.imp_of_mem fun hk hl hlt => ?_
      rwa [List.idxOf_append_of_mem (List.mem_eraseDups.1 hk),
        List.idxOf_append_of_mem (List.mem_eraseDups.1 hl)]
    rw [List.eraseDups_append]
    by_cases hkey : key ∈ keys
    · simpa [List.removeAll, hkey] using hold
    · have hnew : ([key].removeAll keys).eraseDups = [key] := by
        simp [List.removeAll, hkey, List.eraseDups_cons]
      rw [hnew, List.pairwise_append]
      refine ⟨hold, List.pairwise_singleton _ _, fun k hk l hl => ?_⟩
      rw [List.mem_singleton.1 hl, List.idxOf_append_of_mem (List.mem_eraseDups.1 hk),
        List.idxOf_append_of_notMem hkey, List.idxOf_cons_self, Nat.add_zero]
      exact List.idxOf_lt_length_of_mem (List.mem_eraseDups.1 hk)

lemma grouped_groupByKey (events : List (String × Value)) :
    Grouped events (groupByKey events) := by
  have hkeys : (groupByKey events).map (·.1) = (events.map (·.1)).eraseDups := by
    simp [groupByKey, Function.comp_def]
  refine ⟨fun key => ?_, ?_, fun g hg => ?_⟩
  · rw [hkeys, List.mem_eraseDups]
  · rw [hkeys]
    exact pairwise_eraseDups _
  · obtain ⟨key, -, rfl⟩ := List.mem_map.1 hg
    rfl

lemma forall₂_merges (groups : List (String × List Value)) (hgroups : ∀ g ∈ groups, g.2 ≠ []) :
    List.Forall₂ (fun g e => Merges g.1 g.2 [e]) groups
      (groups.flatMap fun g => mergedEntry g.1 g.2) := by
  induction groups with
  | nil => exact .nil
  | cons g groups ih =>
    rw [List.forall_mem_cons] at hgroups
    have hentry : mergedEntry g.1 g.2 = [.property (.named g.1) (mergedValue g.2)] := by
      simp [mergedEntry, hgroups.1]
    rw [List.flatMap_cons, hentry]
    exact .cons (hentry ▸ merges_mergedEntry g.1 g.2) (ih hgroups.2)

lemma Grouped.ne_nil {events : List (String × Value)} {groups : List (String × List Value)}
    (hgroups : Grouped events groups) : ∀ g ∈ groups, g.2 ≠ [] := by
  intro g hg hempty
  obtain ⟨e, he, hkey⟩ := List.mem_map.1 ((hgroups.keys g.1).1 (List.mem_map_of_mem hg))
  rw [hgroups.handlers g hg, List.map_eq_nil_iff, List.filter_eq_nil_iff] at hempty
  exact hempty e he (beq_iff_eq.2 hkey)

/-- There is no object exactly if nothing has been added. -/
lemma toEntries_eq_nil_iff : p.toEntries = [] ↔ p = {} := by
  have hmerged (name : String) (vs : List Value) : mergedEntry name vs = [] ↔ vs = [] := by
    simp [mergedEntry]
  have hevents : ((groupByKey p.events).flatMap fun g => mergedEntry g.1 g.2) = [] ↔
      p.events = [] := by
    cases p.events with
    | nil => simp [groupByKey]
    | cons e es => simp [groupByKey, List.eraseDups_cons, hmerged]
  rw [Props.toEntries, List.append_eq_nil_iff, List.append_eq_nil_iff, List.append_eq_nil_iff,
    hmerged, hmerged, hevents, Props.eq_empty_iff, and_assoc, and_assoc]

lemma Assigns.ne_empty {name : String} {v : Value} {share : Props}
    (hshare : Assigns scope v name share) : share ≠ {} := by
  cases hshare <;> simp

lemma Contributes.eq_empty_iff {share : Props} (hshare : Contributes scope h a share) :
    share = {} ↔ a.name ∈ Directive.structural := by
  have hother {d : Directive} (hname : Directive.Spelt a.name d) (hd : d ≠ .none) :
      a.name ∉ Directive.structural := by
    rwa [← Directive.ofName_eq_none_iff, Directive.ofName_of_spelt hname]
  cases hshare with
  | structural hname => simp [hname]
  | html hname => simp [hother hname nofun]
  | textContent hname => simp [hother hname nofun]
  | bindAll hname => simp [hother hname nofun]
  | model hname => simp [hother hname nofun]
  | on hname => simp [hother hname nofun]
  | bind hname htext hshare => simp [hother hname nofun, hshare.ne_empty]
  | plain hname hshare => simp [hother hname nofun, hshare.ne_empty]

lemma forall_eq_empty_iff {as : List Markup.Attribute} {shares : List Props}
    (hshares : List.Forall₂ (Contributes scope h) as shares) :
    (∀ share ∈ shares, share = {}) ↔ ∀ a ∈ as, a.name ∈ Directive.structural := by
  induction hshares with
  | nil => simp
  | cons hshare _ ih => rw [List.forall_mem_cons, List.forall_mem_cons, hshare.eq_empty_iff, ih]

lemma extend_empty_eq_empty_iff {shares : List Props} :
    Props.extend {} shares = {} ↔ ∀ share ∈ shares, share = {} := by
  simp only [Props.eq_empty_iff, Props.extend, List.nil_append, List.flatMap_eq_nil_iff,
    forall_and]

/-- No binding is lost: the object consists of the entries in the order of the attributes, of the
classes and the styles merged into one entry each, and of one entry for each event with all its
handlers. There is no object exactly if all attributes are handled elsewhere. -/
theorem properties_merged {es : List Entry} (hes : properties scope h = .ok es) :
    ∃ shares, List.Forall₂ (Contributes scope h) h.attributes shares ∧
      ∃ classes styles groups events,
        es = shares.flatMap Props.entries ++ classes ++ styles ++ events ∧
        Merges "class" (shares.flatMap Props.classes) classes ∧
        Merges "style" (shares.flatMap Props.styles) styles ∧
        Grouped (shares.flatMap Props.events) groups ∧
        List.Forall₂ (fun g e => Merges g.1 g.2 [e]) groups events ∧
        (propsText? es = none ↔ ∀ a ∈ h.attributes, a.name ∈ Directive.structural) := by
  obtain ⟨p, hp, rfl⟩ := map_eq_ok.1 hes
  obtain ⟨shares, hshares, rfl⟩ := foldlM_add_eq_ok.1 hp
  have hgroups := grouped_groupByKey (shares.flatMap Props.events)
  refine ⟨shares, hshares, _, _, _, _, rfl, merges_mergedEntry _ _, merges_mergedEntry _ _,
    hgroups, forall₂_merges _ hgroups.ne_nil, ?_⟩
  have hnone (es : List Entry) : propsText? es = none ↔ es = [] := by
    cases es <;> simp [propsText?]
  rw [hnone, toEntries_eq_nil_iff, extend_empty_eq_empty_iff, forall_eq_empty_iff hshares]

/-- A field with two classes and with two handlers of one event. -/
def searchField : Host where
  tag := "input"
  isComponent := false
  attributes := [⟨"class", some "wide"⟩, ⟨"@input", some "search"⟩, ⟨"v-show", some "on"⟩,
    ⟨":class", some "kind"⟩, ⟨"v-model", some "text"⟩, ⟨"id", some "q"⟩]

example : (properties [] searchField).toOption.map (·.map Entry.text) =
    some ["value: _ctx.text", "id: \"q\"", "class: [\"wide\", _ctx.kind]",
      "onInput: [_ctx.search, $event => (_ctx.text = $event.target.value)]"] := by
  decide +kernel

end Unbundled.Template
