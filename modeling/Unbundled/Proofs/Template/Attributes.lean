import Unbundled.Proofs.Template.Shape
import Unbundled.Proofs.Template.Steps

/-!
# Fixed attributes in the object of properties

Reading the attributes of an element keeps every fixed attribute: the object of properties holds
each of them once, in the order of the source, the classes and the styles behind the others.
Directives add nothing that could be taken for a fixed attribute.
-/

namespace Unbundled.Template

open Script (Diagnostic)

@[simp] lemma Value.literalsAll_eq (vs : List Value) :
    Value.literalsAll vs = vs.flatMap Value.literals := by
  induction vs with
  | nil => rfl
  | cons v vs ih => rw [Value.literalsAll, ih, List.flatMap_cons]

/-! ## Names and keys -/

lemma startsWith_of_append {as bs cs : List Char} (h : Text.startsWith (as ++ bs) cs = true) :
    Text.startsWith as cs = true := by
  induction as generalizing cs with
  | nil => rfl
  | cons a as ih =>
    cases cs with
    | nil => simp [Text.startsWith, Text.dropPrefix?] at h
    | cons c cs =>
      by_cases hac : a = c
      · simp only [List.cons_append, Text.startsWith, Text.dropPrefix?, hac, if_true] at h ⊢
        exact ih h
      · simp [Text.startsWith, Text.dropPrefix?, hac] at h

lemma after_eq_none_iff (starts : List String) (name : String) :
    (starts.findSome? fun s => Text.dropPrefix? s.toList name.toList) = none ↔
      ∀ s ∈ starts, Text.startsWith s.toList name.toList = false := by
  simp [Text.startsWith]

lemma isFixedName_iff (name : String) : isFixedName name = true ↔
    ∀ s ∈ ["v-", ":", "@", "#"], Text.startsWith s.toList name.toList = false := by
  simp [isFixedName]

lemma isFixedName_of_mem {name : String} (h : name ∈ Directive.structural) :
    isFixedName name = false := by
  have hall : ∀ s ∈ Directive.structural, isFixedName s = false := by decide +kernel
  exact hall name h

lemma ofName_eq_plain_iff (name : String) :
    Directive.ofName name = .plain ↔ isFixedName name = true := by
  have hiff := isFixedName_iff name
  constructor
  · intro h
    rw [hiff]
    unfold Directive.ofName at h
    dsimp only at h
    split at h
    · cases h
    split at h
    · cases h
    split at h
    · cases h
    split at h
    · cases h
    split at h
    · cases h
    split at h
    · cases h
    next hbind =>
    split at h
    · cases h
    next hon =>
    split at h
    · cases h
    next hrest =>
    have hbind := (after_eq_none_iff _ _).1 (Option.eq_none_iff_forall_ne_some.2 hbind)
    have hon := (after_eq_none_iff _ _).1 (Option.eq_none_iff_forall_ne_some.2 hon)
    have hrest := (after_eq_none_iff _ _).1 (Option.not_isSome_iff_eq_none.1 hrest)
    simp only [List.forall_mem_cons] at hbind hon hrest ⊢
    exact ⟨hrest.1, hbind.1, hon.1, hrest.2.1, List.forall_mem_nil _⟩
  · intro h
    have hstart := hiff.1 h
    simp only [List.forall_mem_cons] at hstart
    obtain ⟨hv, hcolon, hat, hhash, -⟩ := hstart
    -- every long form begins with `v-`
    have hlong (tail : String) : Text.startsWith ("v-" ++ tail).toList name.toList = false := by
      rw [String.toList_append]
      exact Bool.eq_false_iff.2 fun hs => Bool.eq_false_iff.1 hv (startsWith_of_append hs)
    have hne (s : String) (hs : isFixedName s = false) : ¬name = s := by
      rintro rfl
      exact Bool.eq_false_iff.1 hs h
    unfold Directive.ofName
    dsimp only
    rw [if_neg fun hm => Bool.eq_false_iff.1 (isFixedName_of_mem (List.contains_iff_mem.1 hm)) h,
      if_neg (hne _ (by decide +kernel)), if_neg (hne _ (by decide +kernel)),
      if_neg (hne _ (by decide +kernel)),
      (after_eq_none_iff ["v-model"] name).2 (by simpa using hlong "model"),
      (after_eq_none_iff [":", "v-bind:"] name).2 (by simpa using ⟨hcolon, hlong "bind:"⟩),
      (after_eq_none_iff ["@", "v-on:"] name).2 (by simpa using ⟨hat, hlong "on:"⟩)]
    have hrest := (after_eq_none_iff ["v-", "#"] name).2 (by simpa using ⟨hv, hhash⟩)
    dsimp only
    rw [if_neg (by simp [hrest])]
lemma propertyKey_agrees {scope : List String} {name : String} {key : Key}
    (h : propertyKey scope name = .ok key) : KeyAgrees (keyOfName name) key := by
  unfold propertyKey at h
  split at h
  · next cs hcs =>
    have hkey : keyOfName name =
        if cs.getLast? = some ']' then .computed (String.ofList cs.dropLast) else .named name := by
      simp only [keyOfName, hcs]
    rw [hkey]
    split at h
    · next hlast =>
      rw [if_pos hlast]
      obtain ⟨text, htext, rfl⟩ := map_eq_ok.1 h
      exact .computed ⟨scope, htext⟩
    · next hlast =>
      rw [if_neg hlast]
      cases h
      exact .named name
  · next hcs =>
    have hkey : keyOfName name = .named name := by
      unfold keyOfName
      split
      · next cs hcs' => exact absurd hcs' (hcs cs)
      · rfl
    cases h
    rw [hkey]
    exact .named name

/-! ## One attribute -/

/-- The fixed texts among the properties: of the entries, of the classes and of the styles. -/
def Props.fixed (p : Props) : List (Key × String) × List String × List String :=
  (fixedOf p.entries, Value.literalsAll p.classes, Value.literalsAll p.styles)

/-- No handler is a fixed text. -/
def Props.EventsRun (p : Props) : Prop := ∀ e ∈ p.events, e.2.literals = []

/-- `p'` adds to `p` nothing that could be taken for a fixed attribute. -/
structure Props.AddsNoFixed (p p' : Props) : Prop where
  fixed : p'.fixed = p.fixed
  events : p.EventsRun → p'.EventsRun

lemma addsNoFixed_refl (p : Props) : p.AddsNoFixed p := ⟨rfl, id⟩

lemma addsNoFixed_addEntry (p : Props) {e : Entry} (he : e.fixed = []) :
    p.AddsNoFixed (p.addEntry e) :=
  ⟨by simp [Props.fixed, Props.addEntry, fixedOf, he], id⟩

lemma addsNoFixed_addNamed (p : Props) (name : String) {v : Value} (hv : v.literals = []) :
    p.AddsNoFixed (p.addNamed name v) :=
  addsNoFixed_addEntry p (by rw [Entry.fixed, hv, List.map_nil])

lemma addsNoFixed_addEvent (p : Props) (key : String) {v : Value} (hv : v.literals = []) :
    p.AddsNoFixed (p.addEvent key v) := by
  refine ⟨rfl, fun h e he => ?_⟩
  rcases List.mem_append.1 he with he | he
  · exact h e he
  · rw [List.mem_singleton.1 he]
    exact hv

lemma Props.AddsNoFixed.trans {p q r : Props} (h₁ : p.AddsNoFixed q) (h₂ : q.AddsNoFixed r) :
    p.AddsNoFixed r :=
  ⟨h₂.fixed.trans h₁.fixed, h₂.events ∘ h₁.events⟩

/-- A property is a class, a style or an entry under its own key. -/
lemma addProperty_cases {p p' : Props} {scope : List String} {name : String} {v : Value}
    (h : p.addProperty scope name v = .ok p') :
    (name = "class" ∧ p' = { p with classes := p.classes ++ [v] }) ∨
    (name = "style" ∧ p' = { p with styles := p.styles ++ [v] }) ∨
    (name ≠ "class" ∧ name ≠ "style" ∧ ∃ key, KeyAgrees (keyOfName name) key ∧
      p' = p.addEntry (.property key v)) := by
  obtain ⟨share, hshare, rfl⟩ := addProperty_eq_ok.1 h
  cases hshare with
  | classPart => exact .inl ⟨rfl, by simp [Props.append]⟩
  | stylePart => exact .inr (.inl ⟨rfl, by simp [Props.append]⟩)
  | entry hclass hstyle hkey =>
    exact .inr (.inr ⟨hclass, hstyle, _, propertyKey_agrees hkey, p.append_entry _⟩)

lemma addsNoFixed_addProperty {p p' : Props} {scope : List String} {name : String} {v : Value}
    (hv : v.literals = []) (h : p.addProperty scope name v = .ok p') : p.AddsNoFixed p' := by
  obtain ⟨-, rfl⟩ | ⟨-, rfl⟩ | ⟨-, -, key, -, rfl⟩ := addProperty_cases h
  · exact ⟨by simp [Props.fixed, hv], id⟩
  · exact ⟨by simp [Props.fixed, hv], id⟩
  · exact addsNoFixed_addEntry p (by rw [Entry.fixed, hv, List.map_nil])

lemma literals_handler {scope : List String} {value? : Option String} {v : Value}
    (h : handler scope value? = .ok v) : v.literals = [] := by
  obtain rfl | ⟨text, -, rfl⟩ | ⟨text, -, rfl⟩ | ⟨text, -, rfl⟩ := handler_cases h <;> rfl

lemma literals_guardHandler (modifiers : List String) {v : Value} (hv : v.literals = []) :
    (guardHandler modifiers v).literals = [] := by
  unfold guardHandler
  dsimp only
  split
  · split
    · exact hv
    · rfl
  · rfl

lemma addsNoFixed_addModel {p p' : Props} {scope : List String} {h : Host} {value : String}
    {modifiers : List String} (hp : p.addModel scope h value modifiers = .ok p') :
    p.AddsNoFixed p' := by
  obtain ⟨target, -, name, v, event, w, rfl, hv⟩ := addModel_cases hp
  have hliterals : v.literals = [] := by
    obtain ⟨rfl, -⟩ | ⟨rfl, -⟩ := hv <;> rfl
  exact (addsNoFixed_addNamed p name hliterals).trans (addsNoFixed_addEvent _ event rfl)

lemma add_directive {p p' : Props} {scope : List String} {h : Host} {a : Markup.Attribute}
    (ha : isFixedName a.name = false) (hp : p.add scope h a = .ok p') : p.AddsNoFixed p' := by
  unfold Props.add at hp
  split at hp
  · cases hp
    exact addsNoFixed_refl p
  · obtain ⟨text, -, hp⟩ := bind_eq_ok.1 hp
    cases hp
    exact addsNoFixed_addNamed p _ rfl
  · obtain ⟨text, -, hp⟩ := bind_eq_ok.1 hp
    cases hp
    exact addsNoFixed_addNamed p _ rfl
  · obtain ⟨text, -, hp⟩ := bind_eq_ok.1 hp
    cases hp
    exact addsNoFixed_addEntry p rfl
  · obtain ⟨value, -, hp⟩ := bind_eq_ok.1 hp
    exact addsNoFixed_addModel hp
  · obtain ⟨source, -, hp⟩ := bind_eq_ok.1 hp
    exact addsNoFixed_addProperty rfl hp
  · dsimp only at hp
    split at hp
    · cases hp
    · obtain ⟨v, hv, hp⟩ := bind_eq_ok.1 hp
      cases hp
      exact addsNoFixed_addEvent p _ (literals_guardHandler _ (literals_handler hv))
  · cases hp
  · next hplain => exact absurd ((ofName_eq_plain_iff _).1 hplain) (by simp [ha])

/-! ## All attributes -/

/-- The properties hold the fixed attributes of `as`, and nothing else that is fixed. -/
structure Props.Holds (p : Props) (as : List Markup.Attribute) : Prop where
  entries : List.Forall₂ AttributeAgrees (fixedOthers as) (fixedOf p.entries)
  classes : fixedNamed "class" as = (Value.literalsAll p.classes).map (Key.named "class", ·)
  styles : fixedNamed "style" as = (Value.literalsAll p.styles).map (Key.named "style", ·)
  events : p.EventsRun

lemma fixedOthers_append (as bs : List Markup.Attribute) :
    fixedOthers (as ++ bs) = fixedOthers as ++ fixedOthers bs := by
  simp [fixedOthers]

lemma fixedNamed_append (name : String) (as bs : List Markup.Attribute) :
    fixedNamed name (as ++ bs) = fixedNamed name as ++ fixedNamed name bs := by
  simp [fixedNamed]

lemma holds_directive {p p' : Props} {as : List Markup.Attribute} {a : Markup.Attribute}
    (hp : p.Holds as) (ha : isFixedName a.name = false) (h : p.AddsNoFixed p') :
    p'.Holds (as ++ [a]) := by
  have hother (name : String) (hname : isFixedName name = true) : (a.name == name) = false := by
    apply beq_false_of_ne
    rintro rfl
    rw [hname] at ha
    cases ha
  have hclass := hother "class" (by decide +kernel)
  have hstyle := hother "style" (by decide +kernel)
  have hfixed := h.fixed
  simp only [Props.fixed, Prod.mk.injEq] at hfixed
  refine ⟨?_, ?_, ?_, h.events hp.events⟩
  · rw [hfixed.1]
    simpa [fixedOthers, ha] using hp.entries
  · rw [hfixed.2.1]
    simpa [fixedNamed, hclass] using hp.classes
  · rw [hfixed.2.2]
    simpa [fixedNamed, hstyle] using hp.styles

lemma holds_plain {p p' : Props} {scope : List String} {as : List Markup.Attribute}
    {a : Markup.Attribute} (hp : p.Holds as) (ha : isFixedName a.name = true)
    (h : p.addProperty scope a.name (.literal (a.value?.getD "")) = .ok p') :
    p'.Holds (as ++ [a]) := by
  obtain ⟨hname, rfl⟩ | ⟨hname, rfl⟩ | ⟨hclass, hstyle, key, hkey, rfl⟩ := addProperty_cases h
  · refine ⟨?_, ?_, ?_, hp.events⟩
    · simpa [fixedOthers, hname] using hp.entries
    · rw [fixedNamed_append, hp.classes]
      simp [fixedNamed, fixedAttribute, hname, keyOfName, Value.literals]
    · simpa [fixedNamed, hname] using hp.styles
  · refine ⟨?_, ?_, ?_, hp.events⟩
    · simpa [fixedOthers, hname] using hp.entries
    · simpa [fixedNamed, hname] using hp.classes
    · rw [fixedNamed_append, hp.styles]
      simp [fixedNamed, fixedAttribute, hname, keyOfName, Value.literals]
  · refine ⟨?_, ?_, ?_, hp.events⟩
    · have hnew : List.Forall₂ AttributeAgrees (fixedOthers [a])
          (Entry.fixed (.property key (.literal (a.value?.getD "")))) := by
        simp only [fixedOthers, Entry.fixed, Value.literals, List.map_cons, List.map_nil]
        rw [List.filter_cons_of_pos (by simp [ha, hclass, hstyle])]
        exact .cons ⟨hkey, rfl⟩ .nil
      rw [fixedOthers_append]
      simpa [fixedOf, Props.addEntry] using List.rel_append hp.entries hnew
    · simpa [fixedNamed, hclass, Props.addEntry] using hp.classes
    · simpa [fixedNamed, hstyle, Props.addEntry] using hp.styles

lemma holds_add {p p' : Props} {scope : List String} {h : Host} {as : List Markup.Attribute}
    {a : Markup.Attribute} (hp : p.Holds as) (hadd : p.add scope h a = .ok p') :
    p'.Holds (as ++ [a]) := by
  cases ha : isFixedName a.name with
  | false => exact holds_directive hp ha (add_directive ha hadd)
  | true =>
    rw [Props.add, (ofName_eq_plain_iff a.name).2 ha] at hadd
    exact holds_plain hp ha hadd

lemma holds_foldlM {p p' : Props} {scope : List String} {h : Host}
    {as bs : List Markup.Attribute} (hp : p.Holds as)
    (hfold : bs.foldlM (Props.add scope h) p = .ok p') : p'.Holds (as ++ bs) := by
  induction bs generalizing p as with
  | nil =>
    cases hfold
    simpa using hp
  | cons b bs ih =>
    rw [List.foldlM_cons] at hfold
    obtain ⟨q, hq, hrest⟩ := bind_eq_ok.1 hfold
    simpa using ih (holds_add hp hq) hrest

@[simp] lemma literals_mergedValue (vs : List Value) :
    (mergedValue vs).literals = Value.literalsAll vs := by
  unfold mergedValue
  split
  · simp
  · rfl

lemma fixedOf_mergedEntry (name : String) (vs : List Value) :
    fixedOf (mergedEntry name vs) = (Value.literalsAll vs).map (Key.named name, ·) := by
  unfold mergedEntry
  split
  · next hvs => simp [List.isEmpty_iff.1 hvs, fixedOf]
  · simp [fixedOf, Entry.fixed]

lemma fixedOf_append (es fs : List Entry) : fixedOf (es ++ fs) = fixedOf es ++ fixedOf fs :=
  List.flatMap_append

lemma fixedOf_events {p : Props} (hp : p.EventsRun) :
    fixedOf ((groupByKey p.events).flatMap fun (key, vs) => mergedEntry key vs) = [] := by
  have hgroup : ∀ g ∈ groupByKey p.events, fixedOf (mergedEntry g.1 g.2) = [] := by
    intro g hg
    obtain ⟨key, -, rfl⟩ := List.mem_map.1 hg
    rw [fixedOf_mergedEntry, Value.literalsAll_eq, List.map_eq_nil_iff, List.flatMap_eq_nil_iff]
    intro v hv
    obtain ⟨e, he, rfl⟩ := List.mem_map.1 hv
    exact hp e (List.mem_filter.1 he).1
  rw [fixedOf, List.flatMap_assoc, List.flatMap_eq_nil_iff]
  exact hgroup

/-- The object of properties holds the fixed attributes in order. -/
theorem fixed_properties {scope : List String} {h : Host} {props : List Entry}
    (hprops : properties scope h = .ok props) :
    List.Forall₂ AttributeAgrees (fixedAttributes h.attributes) (fixedOf props) := by
  obtain ⟨p, hp, rfl⟩ := map_eq_ok.1 hprops
  have hempty : Props.Holds {} [] := ⟨.nil, rfl, rfl, by simp [Props.EventsRun]⟩
  have hall := holds_foldlM hempty hp
  rw [List.nil_append] at hall
  have hnamed (name : String) (vs : List String) : List.Forall₂ AttributeAgrees
      (vs.map (Key.named name, ·)) (vs.map (Key.named name, ·)) :=
    List.forall₂_same.2 fun b hb => by
      obtain ⟨v, -, rfl⟩ := List.mem_map.1 hb
      exact ⟨.named name, rfl⟩
  rw [Props.toEntries, fixedOf_append, fixedOf_append, fixedOf_append, fixedOf_events hall.events,
    fixedOf_mergedEntry, fixedOf_mergedEntry, List.append_nil, fixedAttributes, hall.classes,
    hall.styles]
  exact List.rel_append (List.rel_append hall.entries (hnamed _ _)) (hnamed _ _)

end Unbundled.Template
