import Unbundled.Imports
import Unbundled.Proofs.Script.Places

/-!
# Redirected imports

Where a tree names other modules is a matter of places: behind `from`, after a bare `import`, and
first among the arguments of `import()`. Redirecting a script changes the bare ones among the
literals at these places and no other node, and a second run finds nothing to change.
-/

namespace Unbundled.Script

/-- The number of the child that may be a literal by which the node names a module. -/
def Node.sourceIndex? : Node → Option Nat
  | .importDecl _ _ specifiers _ => some specifiers.length
  | .exportAll .. => some 0
  | .exportNamed _ specifiers (some _) => some specifiers.length
  | .call _ callee (_ :: _) => if callee.isImport then some 1 else none
  | _ => none

/-- At the place in the tree stands a string literal by which a module is named. -/
inductive Node.SourceAt : Node → List Nat → Node → Prop
  | own {n literal : Node} {i : Nat} {v : String} (index : n.sourceIndex? = some i)
      (child : n.children[i]? = some literal) (value : literal.literal? = some v) :
      SourceAt n [i] literal
  | inside {n c literal : Node} {i : Nat} {p : List Nat} (child : n.children[i]? = some c)
      (h : SourceAt c p literal) : SourceAt n (i :: p) literal

/-- All items of a script as one node. -/
def Module.root (m : Module) : Node := .block m.span m.body

variable {f : String → Option String}

/-! ## One literal -/

lemma children_of_literal {n : Node} {v : String} (h : n.literal? = some v) : n.children = [] := by
  cases n with
  | str => rfl
  | _ => cases h

lemma revalue_of_not_literal {n : Node} (h : n.literal? = none) : n.revalue f = n := by
  cases n with
  | str => cases h
  | _ => rfl

lemma mapSources_of_literal {n : Node} {v : String} (h : n.literal? = some v) :
    n.mapSources f = n := by
  cases n with
  | str => rfl
  | _ => cases h

lemma literal?_mapSources (n : Node) : (n.mapSources f).literal? = n.literal? := by
  cases n <;> rfl

lemma literal?_revalue (n : Node) :
    (n.revalue f).literal? = n.literal?.map fun v => (f v).getD v := by
  cases n with
  | str s v raw =>
    cases hv : f v <;> simp [Node.revalue, Node.literal?, hv]
  | _ => rfl

lemma children_revalue (n : Node) : (n.revalue f).children = n.children := by
  cases n with
  | str s v raw => cases hv : f v <;> simp [Node.revalue, Node.children, hv]
  | _ => rfl

/-! ## One node -/

lemma sourceIndex?_mapChildren (n : Node) :
    (n.mapChildren (Node.mapSources f)).sourceIndex? = n.sourceIndex? := by
  cases n with
  | call s callee args =>
    cases args <;> simp [Node.mapChildren, Node.sourceIndex?, isImport_mapSources]
  | exportNamed s specifiers source? =>
    cases source? <;> simp [Node.mapChildren, Node.sourceIndex?]
  | importDecl => simp [Node.mapChildren, Node.sourceIndex?]
  | _ => rfl

lemma sourceIndex?_reviseOwn (n : Node) : (n.reviseOwn f).sourceIndex? = n.sourceIndex? := by
  cases n with
  | call s callee args =>
    cases args <;> cases hc : callee.isImport <;>
      simp [Node.reviseOwn, Node.sourceIndex?, revalueFirst, hc]
  | exportNamed s specifiers source? => cases source? <;> rfl
  | _ => rfl

lemma sourceIndex?_mapSources (n : Node) : (n.mapSources f).sourceIndex? = n.sourceIndex? := by
  rw [mapSources_eq, sourceIndex?_reviseOwn, sourceIndex?_mapChildren]

lemma top_reviseOwn (n : Node) : (n.reviseOwn f).top = n.top := by
  cases n with
  | call s callee args =>
    cases args <;> simp [Node.reviseOwn, Node.top, Node.mapChildren, revalueFirst]
    split <;> rfl
  | exportNamed s specifiers source =>
    cases source <;> simp [Node.reviseOwn, Node.top, Node.mapChildren]
  | _ => rfl

lemma top_mapSources (n : Node) : (n.mapSources f).top = n.top := by
  rw [mapSources_eq, top_reviseOwn, top_mapChildren]

lemma getElem?_append_revalue (es : List Node) (source : Node) (i : Nat) :
    (es ++ [source.revalue f])[i]? =
      if es.length = i then (es ++ [source])[i]?.map (Node.revalue f)
      else (es ++ [source])[i]? := by
  rcases Nat.lt_trichotomy i es.length with h | rfl | h
  · rw [if_neg (by omega), List.getElem?_append_left h, List.getElem?_append_left h]
  · simp
  · rw [if_neg (by omega), List.getElem?_append_right (by omega),
      List.getElem?_append_right (by omega), List.getElem?_singleton, List.getElem?_singleton,
      if_neg (by omega), if_neg (by omega)]

/-- The literal among the children is revalued, any other child stays. -/
lemma getElem?_children_reviseOwn (n : Node) (i : Nat) :
    (n.reviseOwn f).children[i]? =
      if n.sourceIndex? = some i then n.children[i]?.map (Node.revalue f) else n.children[i]? := by
  cases n with
  | importDecl s phase specifiers source =>
    simpa [Node.reviseOwn, Node.children, Node.sourceIndex?] using
      getElem?_append_revalue specifiers source i
  | exportAll s source =>
    simpa [Node.reviseOwn, Node.children, Node.sourceIndex?] using
      getElem?_append_revalue [] source i
  | exportNamed s specifiers source? =>
    cases source? with
    | none => simp [Node.reviseOwn, Node.children, Node.sourceIndex?]
    | some source =>
      simpa [Node.reviseOwn, Node.children, Node.sourceIndex?] using
        getElem?_append_revalue specifiers source i
  | call s callee args =>
    cases args with
    | nil => simp [Node.reviseOwn, Node.children, Node.sourceIndex?, revalueFirst]
    | cons arg args =>
      cases hc : callee.isImport with
      | false => simp [Node.reviseOwn, Node.children, Node.sourceIndex?, hc]
      | true =>
        rcases i with - | - | i <;>
          simp [Node.reviseOwn, Node.children, Node.sourceIndex?, revalueFirst, hc]
  | _ => simp [Node.reviseOwn, Node.sourceIndex?]

lemma getElem?_children_mapSources (n : Node) (i : Nat) :
    (n.mapSources f).children[i]? =
      n.children[i]?.map fun c =>
        if n.sourceIndex? = some i then (c.mapSources f).revalue f else c.mapSources f := by
  rw [mapSources_eq, getElem?_children_reviseOwn, sourceIndex?_mapChildren, children_mapChildren,
    List.getElem?_map]
  split
  · rw [Option.map_map]
    rfl
  · rfl

/-! ## Places -/

lemma not_sourceAt_of_literal {n l : Node} {v : String} (h : n.literal? = some v) (p : List Nat) :
    ¬ n.SourceAt p l := by
  have hnone := children_of_literal h
  intro hsource
  cases hsource with
  | own index child value => simp [hnone] at child
  | inside child h => simp [hnone] at child

lemma at?_of_sourceAt {n l : Node} {p : List Nat} (h : n.SourceAt p l) : n.at? p = some l := by
  induction h with
  | own index child value => simp [Node.at?, child]
  | inside child h ih => simp [Node.at?, child, ih]

lemma literal_of_sourceAt {n l : Node} {p : List Nat} (h : n.SourceAt p l) :
    ∃ v, l.literal? = some v := by
  induction h with
  | own index child value => exact ⟨_, value⟩
  | inside child h ih => exact ih

theorem sourceAt_mapSources_iff {n l' : Node} {p : List Nat} :
    (n.mapSources f).SourceAt p l' ↔ ∃ l, n.SourceAt p l ∧ l' = l.revalue f := by
  induction p generalizing n with
  | nil =>
    constructor
    · rintro ⟨⟩
    · rintro ⟨l, ⟨⟩, -⟩
  | cons i p ih =>
    have hchild := getElem?_children_mapSources (f := f) n i
    constructor
    · intro h
      cases h with
      | own index child value =>
        rw [sourceIndex?_mapSources] at index
        simp only [hchild, index, if_true, Option.map_eq_some_iff] at child
        obtain ⟨c, hc, rfl⟩ := child
        rw [literal?_revalue, literal?_mapSources, Option.map_eq_some_iff] at value
        obtain ⟨v, hv, -⟩ := value
        exact ⟨c, .own index hc hv, by rw [mapSources_of_literal hv]⟩
      | inside child h =>
        rw [hchild, Option.map_eq_some_iff] at child
        obtain ⟨c, hc, rfl⟩ := child
        cases hv : c.literal? with
        | some v =>
          have hliteral : ∃ w, (if n.sourceIndex? = some i then (c.mapSources f).revalue f
              else c.mapSources f).literal? = some w := by
            split <;> simp [literal?_revalue, literal?_mapSources, hv]
          obtain ⟨w, hw⟩ := hliteral
          exact absurd h (not_sourceAt_of_literal hw p)
        | none =>
          rw [revalue_of_not_literal (by rw [literal?_mapSources, hv]), ite_self] at h
          obtain ⟨l, hl, rfl⟩ := ih.1 h
          exact ⟨l, .inside hc hl, rfl⟩
    · rintro ⟨l, h, rfl⟩
      cases h with
      | @own _ _ _ v index child value =>
        have hrevalued : (n.mapSources f).children[i]? = some (l.revalue f) := by
          simp only [hchild, child, index, if_true, Option.map_some, mapSources_of_literal value]
        have hvalue : (l.revalue f).literal? = some ((f v).getD v) := by
          rw [literal?_revalue, value, Option.map_some]
        exact .own ((sourceIndex?_mapSources n).trans index) hrevalued hvalue
      | @inside _ c _ _ _ child h =>
        have hc : c.literal? = none := by
          cases hv : c.literal? with
          | none => rfl
          | some v => exact absurd h (not_sourceAt_of_literal hv p)
        have hmapped : (n.mapSources f).children[i]? = some (c.mapSources f) := by
          rw [hchild, child, Option.map_some,
            revalue_of_not_literal (by rw [literal?_mapSources, hc]), ite_self]
        exact .inside hmapped (ih.2 ⟨l, h, rfl⟩)

/-- At a place that holds no name of a module the same node stands as before. -/
theorem top_at?_mapSources {n : Node} {p : List Nat} (h : ∀ l, ¬ n.SourceAt p l) :
    ((n.mapSources f).at? p).map Node.top = (n.at? p).map Node.top := by
  induction p generalizing n with
  | nil => simp [Node.at?, top_mapSources]
  | cons i p ih =>
    rw [Node.at?, Node.at?, getElem?_children_mapSources]
    cases hc : n.children[i]? with
    | none => rfl
    | some c =>
      have hinside : ∀ l, ¬ c.SourceAt p l := fun l hl => h l (.inside hc hl)
      cases hv : c.literal? with
      | none =>
        rw [Option.map_some, revalue_of_not_literal (by rw [literal?_mapSources, hv]), ite_self]
        exact ih hinside
      | some v =>
        by_cases hindex : n.sourceIndex? = some i
        · -- the place itself is excluded, and nothing stands below a literal
          cases p with
          | nil => exact absurd (.own hindex hc hv) (h c)
          | cons j p =>
            simp [hindex, Node.at?, children_revalue, mapSources_of_literal hv,
              children_of_literal hv]
        · rw [Option.map_some, if_neg hindex]
          exact ih hinside

/-! ## All sources of a tree -/

lemma sources_eq (n : Node) : n.sources = n.ownSources ++ n.children.flatMap Node.sources :=
  collect_eq Node.ownSources n

/-- A node names a module itself exactly by the literal among its children. -/
lemma ownSources_eq (n : Node) : n.ownSources =
    (n.sourceIndex?.bind fun i => n.children[i]?.bind Node.literal?).toList := by
  cases n with
  | call s callee args =>
    cases args <;> cases hc : callee.isImport <;>
      simp [Node.ownSources, Node.sourceIndex?, Node.children, hc]
  | exportNamed s specifiers source? =>
    cases source? <;> simp [Node.ownSources, Node.sourceIndex?, Node.children]
  | importDecl => simp [Node.ownSources, Node.sourceIndex?, Node.children]
  | exportAll => simp [Node.ownSources, Node.sourceIndex?, Node.children]
  | _ => rfl

/-- At the place stands a name of a module that passes the test. -/
def Node.Selected (q : String → Bool) (n : Node) (p : List Nat) : Prop :=
  ∃ l v, n.SourceAt p l ∧ l.literal? = some v ∧ q v = true

lemma not_selected_nil (q : String → Bool) (n : Node) : ¬ n.Selected q [] := by
  rintro ⟨l, v, ⟨⟩, -⟩

/-- The places with a source that passes the test, as many as there are such sources. -/
def Node.Enumerates (q : String → Bool) (n : Node) (ps : List (List Nat)) : Prop :=
  ps.Nodup ∧ ps.length = n.sources.countP q ∧ ∀ p, p ∈ ps ↔ n.Selected q p

lemma enumerates_children {q : String → Bool} {es : List Node}
    (h : ∀ e ∈ es, ∃ ps, e.Enumerates q ps) (k : Nat) :
    ∃ ps : List (List Nat), ps.Nodup ∧ ps.length = (es.flatMap Node.sources).countP q ∧
      ∀ p, p ∈ ps ↔ ∃ i e p', es[i]? = some e ∧ p = (k + i) :: p' ∧ e.Selected q p' := by
  induction es generalizing k with
  | nil => exact ⟨[], .nil, rfl, by simp⟩
  | cons e es ih =>
    obtain ⟨first, hnodup, hlength, hmem⟩ := h e (by simp)
    obtain ⟨others, hnodup', hlength', hmem'⟩ := ih (fun e he => h e (by simp [he])) (k + 1)
    refine ⟨first.map (k :: ·) ++ others, ?_, ?_, fun p => ?_⟩
    · rw [List.nodup_append]
      have hfirst : (first.map (k :: ·)).Nodup :=
        List.pairwise_map.2 (hnodup.imp fun hne heq => hne (List.cons.inj heq).2)
      refine ⟨hfirst, hnodup', ?_⟩
      rintro p hp p' hp' rfl
      obtain ⟨r, -, rfl⟩ := List.mem_map.1 hp
      obtain ⟨i, _, _, -, heads, -⟩ := (hmem' _).1 hp'
      have hk : k = k + 1 + i := (List.cons.inj heads).1
      omega
    · simp [hlength, hlength', List.countP_append]
    · rw [List.mem_append, List.mem_map, hmem']
      constructor
      · rintro (⟨r, hr, rfl⟩ | ⟨i, c, p', hc, rfl, hselected⟩)
        · exact ⟨0, e, r, rfl, rfl, (hmem r).1 hr⟩
        · refine ⟨i + 1, c, p', by simpa using hc, ?_, hselected⟩
          rw [Nat.add_right_comm, Nat.add_assoc]
      · rintro ⟨i, c, p', hc, rfl, hselected⟩
        cases i with
        | zero =>
          obtain rfl := Option.some.inj hc
          exact .inl ⟨p', (hmem p').2 hselected, rfl⟩
        | succ i =>
          refine .inr ⟨i, c, p', by simpa using hc, ?_, hselected⟩
          rw [Nat.add_right_comm, Nat.add_assoc]

lemma selected_cons_iff {q : String → Bool} {n : Node} {i : Nat} {p : List Nat} :
    n.Selected q (i :: p) ↔
      (p = [] ∧ ∃ v, n.sourceIndex? = some i ∧ n.children[i]?.bind Node.literal? = some v ∧
        q v = true) ∨
      ∃ c, n.children[i]? = some c ∧ c.Selected q p := by
  constructor
  · rintro ⟨l, v, h, hv, hq⟩
    cases h with
    | own index child value => exact .inl ⟨rfl, v, index, by simp [child, hv], hq⟩
    | inside child h => exact .inr ⟨_, child, l, v, h, hv, hq⟩
  · rintro (⟨rfl, v, index, hv, hq⟩ | ⟨c, child, l, v, h, hv, hq⟩)
    · obtain ⟨l, child, hl⟩ := Option.bind_eq_some_iff.1 hv
      exact ⟨l, v, .own index child hl, hl, hq⟩
    · exact ⟨l, v, .inside child h, hv, hq⟩

lemma enumerates_own (q : String → Bool) (n : Node) :
    ∃ ps : List (List Nat), ps.Nodup ∧ ps.length = n.ownSources.countP q ∧
      ∀ p, p ∈ ps ↔ ∃ i v, p = [i] ∧ n.sourceIndex? = some i ∧
        n.children[i]?.bind Node.literal? = some v ∧ q v = true := by
  rw [ownSources_eq]
  cases hindex : n.sourceIndex? with
  | none => exact ⟨[], .nil, rfl, by simp⟩
  | some i =>
    cases hv : n.children[i]?.bind Node.literal? with
    | none =>
      refine ⟨[], .nil, by simp [hv], fun p => ⟨nofun, ?_⟩⟩
      rintro ⟨j, w, rfl, hj, hw, -⟩
      rw [← Option.some.inj hj, hv] at hw
      cases hw
    | some v =>
      -- there is no other place than `[i]`
      have hplace (p : List Nat) : (∃ j w, p = [j] ∧ some i = some j ∧
          n.children[j]?.bind Node.literal? = some w ∧ q w = true) ↔ p = [i] ∧ q v = true := by
        constructor
        · rintro ⟨j, w, rfl, hj, hw, hq⟩
          obtain rfl := Option.some.inj hj
          obtain rfl := Option.some.inj (hv.symm.trans hw)
          exact ⟨rfl, hq⟩
        · rintro ⟨rfl, hq⟩
          exact ⟨i, v, rfl, rfl, hv, hq⟩
      simp only [hplace]
      cases hq : q v with
      | false => exact ⟨[], .nil, by simp [hv, hq], by simp⟩
      | true => exact ⟨[[i]], List.pairwise_singleton _ _, by simp [hv, hq], by simp⟩

theorem exists_enumerates (q : String → Bool) (n : Node) : ∃ ps, n.Enumerates q ps := by
  induction n using Node.induction with
  | h n ih =>
    obtain ⟨own, hown, hownLength, hownMem⟩ := enumerates_own q n
    obtain ⟨inner, hinner, hinnerLength, hinnerMem⟩ := enumerates_children ih 0
    simp only [Nat.zero_add] at hinnerMem
    refine ⟨own ++ inner, ?_, ?_, fun p => ?_⟩
    · rw [List.nodup_append]
      refine ⟨hown, hinner, ?_⟩
      rintro p hp p' hp' rfl
      obtain ⟨i, v, rfl, -⟩ := (hownMem p).1 hp
      obtain ⟨j, c, r, -, hr, hselected⟩ := (hinnerMem _).1 hp'
      rw [← (List.cons.inj hr).2] at hselected
      exact not_selected_nil q c hselected
    · rw [List.length_append, hownLength, hinnerLength, sources_eq, List.countP_append]
    · rw [List.mem_append, hownMem, hinnerMem]
      cases p with
      | nil => simp [not_selected_nil]
      | cons i p =>
        rw [selected_cons_iff]
        refine or_congr ?_ ?_
        · constructor
          · rintro ⟨j, v, hp, index, hv, hq⟩
            obtain ⟨rfl, rfl⟩ := List.cons.inj hp
            exact ⟨rfl, v, index, hv, hq⟩
          · rintro ⟨rfl, v, index, hv, hq⟩
            exact ⟨i, v, rfl, index, hv, hq⟩
        · constructor
          · rintro ⟨j, c, r, hc, hp, hselected⟩
            obtain ⟨rfl, rfl⟩ := List.cons.inj hp
            exact ⟨c, hc, hselected⟩
          · rintro ⟨c, hc, hselected⟩
            exact ⟨i, c, p, hc, rfl, hselected⟩

lemma mem_sources_iff {n : Node} {v : String} :
    v ∈ n.sources ↔ ∃ p l, n.SourceAt p l ∧ l.literal? = some v := by
  obtain ⟨ps, -, hlength, hmem⟩ := exists_enumerates (· == v) n
  have hcount : 0 < n.sources.countP (· == v) ↔ v ∈ n.sources := by simp [List.countP_pos_iff]
  rw [← hcount, ← hlength, List.length_pos_iff_exists_mem]
  constructor
  · rintro ⟨p, hp⟩
    obtain ⟨l, w, hl, hw, hq⟩ := (hmem p).1 hp
    exact ⟨p, l, hl, by rw [hw, eq_of_beq hq]⟩
  · rintro ⟨p, l, hl, hv⟩
    exact ⟨p, (hmem p).2 ⟨l, v, hl, hv, beq_self_eq_true v⟩⟩

/-! ## Nothing left to change -/

lemma mapChildren_eq_self {g : Node → Node} {n : Node} (h : ∀ c ∈ n.children, g c = c) :
    n.mapChildren g = n := by
  have hlist (es : List Node) (hes : ∀ c ∈ es, g c = c) : es.map g = es :=
    (List.map_congr_left hes).trans (List.map_id' es)
  have hoption (e? : Option Node) (he : ∀ c, e? = some c → g c = c) : e?.map g = e? := by
    cases e? with
    | none => rfl
    | some e => rw [Option.map_some, he e rfl]
  cases n <;> simp [Node.children] at h <;> simp only [Node.mapChildren] <;> grind

lemma revalue_eq_self {n : Node} (h : ∀ v, n.literal? = some v → f v = none) :
    n.revalue f = n := by
  cases n with
  | str s v raw => simp [Node.revalue, h v rfl]
  | _ => rfl

lemma reviseOwn_eq_self {n : Node} (h : ∀ v ∈ n.ownSources, f v = none) : n.reviseOwn f = n := by
  cases n with
  | importDecl s phase specifiers source =>
    rw [Node.reviseOwn, revalue_eq_self fun v hv => h v (by simp [Node.ownSources, hv])]
  | exportAll s source =>
    rw [Node.reviseOwn, revalue_eq_self fun v hv => h v (by simp [Node.ownSources, hv])]
  | exportNamed s specifiers source? =>
    cases source? with
    | none => rfl
    | some source =>
      rw [Node.reviseOwn, Option.map_some,
        revalue_eq_self fun v hv => h v (by simp [Node.ownSources, hv])]
  | call s callee args =>
    cases hc : callee.isImport with
    | false => simp [Node.reviseOwn, hc]
    | true =>
      cases args with
      | nil => simp [Node.reviseOwn, revalueFirst]
      | cons arg args =>
        have harg := revalue_eq_self (n := arg) (f := f) fun v hv =>
          h v (by simp [Node.ownSources, hc, hv])
        simp [Node.reviseOwn, revalueFirst, harg]
  | _ => rfl

/-- Where no source is to change, the tree stays as it is. -/
theorem mapSources_eq_self {n : Node} (h : ∀ v ∈ n.sources, f v = none) : n.mapSources f = n := by
  induction n using Node.induction with
  | h n ih =>
    rw [sources_eq] at h
    have hchildren : n.mapChildren (Node.mapSources f) = n := mapChildren_eq_self fun c hc =>
      ih c hc fun v hv => h v (List.mem_append_right _ (List.mem_flatMap.2 ⟨c, hc, hv⟩))
    rw [mapSources_eq, hchildren, reviseOwn_eq_self fun v hv => h v (List.mem_append_left _ hv)]

end Unbundled.Script

namespace Unbundled

open Specifier (isBare isLegal isUrl redirected?)

/-- What becomes of a string literal that names a module. -/
inductive Redirected : Script.Node → Script.Node → Prop
  | bare (s : Script.Span) {v : String} (raw : Option String) (h : isBare v = true) :
      Redirected (.str s v raw)
        (.str s ("/node_modules/" ++ v) (Script.requote? raw ("/node_modules/" ++ v)))
  | kept (s : Script.Span) {v : String} (raw : Option String)
      (h : v = "" ∨ isLegal v = true ∨ isUrl v = true) :
      Redirected (.str s v raw) (.str s v raw)

/-- No place of the script names a module by a bare specifier. -/
def HasNoBare (m : Script.Module) : Prop :=
  ∀ p l v, m.root.SourceAt p l → l.literal? = some v → isBare v = false

/-- The script `m'` is `m` with its bare specifiers redirected, `count` of them. -/
structure Redirects (m m' : Script.Module) (count : Nat) : Prop where
  complete : HasNoBare m'
  sources : ∀ p l, m.root.SourceAt p l → ∃ l', m'.root.SourceAt p l' ∧ Redirected l l'
  others : ∀ p, (∀ l, ¬ m.root.SourceAt p l) →
    (m'.root.at? p).map Script.Node.top = (m.root.at? p).map Script.Node.top
  shebang : m'.shebang = m.shebang
  counted : ∃ changed : List (List Nat), changed.Nodup ∧ changed.length = count ∧
    ∀ p, p ∈ changed ↔ ∃ l l', m.root.SourceAt p l ∧ m'.root.SourceAt p l' ∧ l ≠ l'

/-- What is printed for the script is refused when it is read again, or names the same modules. -/
def ReadsBack (file : String) (m : Script.Module) (comments : Script.Comments) : Prop :=
  ∀ again, Script.parseModule file (m.text comments) = .ok again →
    again.module.sources = m.sources

lemma isLegal_libraryRoot (v : String) : isLegal (libraryRoot ++ v) = true := by
  have hstart : Text.startsWith "/".toList (libraryRoot ++ v).toList = true := by
    rw [String.toList_append]
    rfl
  rw [isLegal, List.any_cons, hstart, Bool.true_or]

lemma isBare_libraryRoot (v : String) : isBare (libraryRoot ++ v) = false := by
  simp [isBare, isLegal_libraryRoot]

lemma isBare_redirected (v : String) : isBare ((redirected? v).getD v) = false := by
  unfold redirected?
  cases h : isBare v with
  | true => simpa using isBare_libraryRoot v
  | false => simpa using h

lemma isBare_eq_false_iff (v : String) :
    isBare v = false ↔ v = "" ∨ isLegal v = true ∨ isUrl v = true := by
  by_cases hv : v = "" <;> cases hl : isLegal v <;> cases hu : isUrl v <;> simp [isBare, hv, hl, hu]

lemma libraryRoot_append_ne (v : String) : libraryRoot ++ v ≠ v := by
  intro h
  have hlength := congrArg String.length h
  rw [String.length_append] at hlength
  have hroot : libraryRoot.length = 14 := by decide
  omega

lemma redirected_revalue {l : Script.Node} {v : String} (h : l.literal? = some v) :
    Redirected l (l.revalue redirected?) := by
  cases l with
  | str s w raw =>
    cases hw : isBare w with
    | true =>
      have hnew : redirected? w = some ("/node_modules/" ++ w) := by
        rw [redirected?, if_pos hw, libraryRoot]
      simp only [Script.Node.revalue, hnew]
      exact .bare s raw hw
    | false =>
      have hnone : redirected? w = none := by simp [redirected?, hw]
      simp only [Script.Node.revalue, hnone]
      exact .kept s raw ((isBare_eq_false_iff w).1 hw)
  | _ => cases h

lemma revalue_ne_iff {l : Script.Node} {v : String} (h : l.literal? = some v) :
    l ≠ l.revalue redirected? ↔ isBare v = true := by
  cases l with
  | str s w raw =>
    obtain rfl := Option.some.inj h
    cases hw : isBare w with
    | true => simp [Script.Node.revalue, redirected?, hw, (libraryRoot_append_ne w).symm]
    | false => simp [Script.Node.revalue, redirected?, hw]
  | _ => cases h

lemma root_redirectModule (m : Script.Module) :
    (redirectModule m).1.root = m.root.mapSources redirected? := rfl

lemma sources_root (m : Script.Module) : m.root.sources = m.sources := rfl

lemma hasNoBare_iff (m : Script.Module) : HasNoBare m ↔ ∀ v ∈ m.sources, isBare v = false := by
  simp only [← sources_root, Script.mem_sources_iff]
  constructor
  · rintro h v ⟨p, l, hl, hv⟩
    exact h p l v hl hv
  · intro h p l v hl hv
    exact h v ⟨p, l, hl, hv⟩

lemma hasNoBare_redirectModule (m : Script.Module) : HasNoBare (redirectModule m).1 := by
  intro p l' v hl' hv
  rw [root_redirectModule, Script.sourceAt_mapSources_iff] at hl'
  obtain ⟨l, -, rfl⟩ := hl'
  rw [Script.literal?_revalue, Option.map_eq_some_iff] at hv
  obtain ⟨w, -, rfl⟩ := hv
  exact isBare_redirected w

lemma count_eq_zero_iff (m : Script.Module) : (redirectModule m).2 = 0 ↔ HasNoBare m := by
  rw [hasNoBare_iff]
  simp [redirectModule, List.countP_eq_zero]

lemma redirectModule_of_hasNoBare {m : Script.Module} (h : HasNoBare m) :
    redirectModule m = (m, 0) := by
  have hroot : m.root.mapSources redirected? = m.root := by
    apply Script.mapSources_eq_self
    intro v hv
    have hbare := (hasNoBare_iff m).1 h v hv
    simp [redirected?, hbare]
  have hbody := (Script.Node.block.inj hroot).2
  have hmodule : (redirectModule m).1 = m := by
    rw [redirectModule, Script.Module.mapSources, hbody]
  exact Prod.ext hmodule ((count_eq_zero_iff m).2 h)

theorem redirects_redirectModule (m : Script.Module) :
    Redirects m (redirectModule m).1 (redirectModule m).2 where
  complete := hasNoBare_redirectModule m
  sources p l hl := by
    obtain ⟨v, hv⟩ := Script.literal_of_sourceAt hl
    exact ⟨_, Script.sourceAt_mapSources_iff.2 ⟨l, hl, rfl⟩, redirected_revalue hv⟩
  others p h := Script.top_at?_mapSources h
  shebang := rfl
  counted := by
    obtain ⟨ps, hnodup, hlength, hmem⟩ := Script.exists_enumerates isBare m.root
    refine ⟨ps, hnodup, hlength, fun p => (hmem p).trans ?_⟩
    constructor
    · rintro ⟨l, v, hl, hv, hbare⟩
      exact ⟨l, _, hl, Script.sourceAt_mapSources_iff.2 ⟨l, hl, rfl⟩,
        (revalue_ne_iff hv).2 hbare⟩
    · rintro ⟨l, l', hl, hl', hne⟩
      rw [root_redirectModule, Script.sourceAt_mapSources_iff] at hl'
      obtain ⟨k, hk, rfl⟩ := hl'
      obtain rfl : l = k :=
        Option.some.inj ((Script.at?_of_sourceAt hl).symm.trans (Script.at?_of_sourceAt hk))
      obtain ⟨v, hv⟩ := Script.literal_of_sourceAt hl
      exact ⟨l, v, hl, hv, (revalue_ne_iff hv).1 hne⟩

/-- Redirecting replaces the bare specifiers of a script and nothing else, counts them, and finds
none in its own result. A script without any is served as it was written. -/
theorem redirectModule_exact (m : Script.Module) :
    Redirects m (redirectModule m).1 (redirectModule m).2 ∧
    redirectModule (redirectModule m).1 = ((redirectModule m).1, 0) ∧
    ∀ file code comments, Script.parseModule file code = .ok ⟨m, comments⟩ →
      (HasNoBare m → redirectImports file code = .ok code) ∧
      (¬ HasNoBare m → redirectImports file code = .ok ((redirectModule m).1.text comments)) ∧
      (ReadsBack file (redirectModule m).1 comments →
        (redirectImports file code = .ok code ↔ HasNoBare m)) := by
  refine ⟨redirects_redirectModule m,
    redirectModule_of_hasNoBare (hasNoBare_redirectModule m), fun file code comments hparse => ?_⟩
  have hresult : redirectImports file code =
      if (redirectModule m).2 = 0 then .ok code
      else .ok ((redirectModule m).1.text comments) := by
    rw [redirectImports, hparse]
  have hverbatim (h : HasNoBare m) : redirectImports file code = .ok code := by
    rw [hresult, if_pos ((count_eq_zero_iff m).2 h)]
  have hprinted (h : ¬ HasNoBare m) :
      redirectImports file code = .ok ((redirectModule m).1.text comments) := by
    rw [hresult, if_neg (mt (count_eq_zero_iff m).1 h)]
  refine ⟨hverbatim, hprinted, fun hreads => ⟨fun hsame => ?_, hverbatim⟩⟩
  -- otherwise the printed text is the text that was read, and it names bare specifiers
  apply Classical.byContradiction
  intro hbare
  have htext : (redirectModule m).1.text comments = code :=
    Except.ok.inj ((hprinted hbare).symm.trans hsame)
  have hsources := hreads ⟨m, comments⟩ (by rw [htext, hparse])
  rw [hasNoBare_iff] at hbare
  apply hbare
  rw [show m.sources = (redirectModule m).1.sources from hsources]
  exact (hasNoBare_iff _).1 (hasNoBare_redirectModule m)

/-- Whether the script names the modules `before`, and its printed result the modules `after`. -/
def namesModules (code : String) (before after : List String) : Bool :=
  match Script.parseModule "/main.js" code with
  | .error _ => false
  | .ok parsed =>
    let redirected := (redirectModule parsed.module).1
    match Script.parseModule "/main.js" (redirected.text parsed.comments) with
    | .error _ => false
    | .ok again => parsed.module.sources = before && redirected.sources = after &&
        again.module.sources = after

lemma exists_of_namesModules {code : String} {before after : List String}
    (h : namesModules code before after = true) :
    ∃ m comments, Script.parseModule "/main.js" code = .ok ⟨m, comments⟩ ∧ m.sources = before ∧
      ReadsBack "/main.js" (redirectModule m).1 comments := by
  unfold namesModules at h
  split at h
  · cases h
  next parsed hparse =>
    dsimp only at h
    split at h
    · cases h
    next again hagain =>
      obtain ⟨⟨hbefore, hafter⟩, hread⟩ := by simpa using h
      refine ⟨parsed.module, parsed.comments, hparse, hbefore, fun other hother => ?_⟩
      obtain rfl := Except.ok.inj (hagain.symm.trans hother)
      exact hread.trans hafter.symm

/-- One package is imported at the top, another one where it is needed; a path needs no change. -/
theorem redirectModule_exact_packages :
    (∃ m comments, Script.parseModule "/main.js" "import a from 'vue';\nf(import(\"b\"));\n" =
        .ok ⟨m, comments⟩ ∧ ¬ HasNoBare m ∧ ReadsBack "/main.js" (redirectModule m).1 comments ∧
      redirectImports "/main.js" "import a from 'vue';\nf(import(\"b\"));\n" =
        .ok ((redirectModule m).1.text comments) ∧
      redirectImports "/main.js" "import a from 'vue';\nf(import(\"b\"));\n" ≠
        .ok "import a from 'vue';\nf(import(\"b\"));\n") ∧
    ∃ m comments, Script.parseModule "/main.js" "import a from './a.js'" = .ok ⟨m, comments⟩ ∧
      HasNoBare m ∧ redirectImports "/main.js" "import a from './a.js'" =
        .ok "import a from './a.js'" := by
  constructor
  · obtain ⟨m, comments, hparse, hsources, hreads⟩ := exists_of_namesModules
      (show namesModules "import a from 'vue';\nf(import(\"b\"));\n" ["vue", "b"]
        ["/node_modules/vue", "/node_modules/b"] = true by decide +kernel)
    have hbare : ¬ HasNoBare m := by
      rw [hasNoBare_iff, hsources]
      decide +kernel
    obtain ⟨-, -, htext⟩ := redirectModule_exact m
    obtain ⟨-, hprinted, hiff⟩ := htext _ _ _ hparse
    exact ⟨m, comments, hparse, hbare, hreads, hprinted hbare, mt (hiff hreads).1 hbare⟩
  · obtain ⟨m, comments, hparse, hsources, -⟩ := exists_of_namesModules
      (show namesModules "import a from './a.js'" ["./a.js"] ["./a.js"] = true by decide +kernel)
    have hnone : HasNoBare m := by
      rw [hasNoBare_iff, hsources]
      decide +kernel
    obtain ⟨-, -, htext⟩ := redirectModule_exact m
    exact ⟨m, comments, hparse, hnone, (htext _ _ _ hparse).1 hnone⟩

/-- A second run changes nothing, when what is printed can be read and names the same modules. -/
theorem redirectImports_stable {file code out : String} (hout : redirectImports file code = .ok out)
    (hreads : ∀ m comments, Script.parseModule file code = .ok ⟨m, comments⟩ →
      ReadsBack file (redirectModule m).1 comments)
    (hagain : ∃ again, Script.parseModule file out = .ok again) :
    redirectImports file out = .ok out := by
  cases hparse : Script.parseModule file code with
  | error d =>
    rw [redirectImports, hparse] at hout
    cases hout
  | ok parsed =>
    have hresult : redirectImports file code = if (redirectModule parsed.module).2 = 0 then .ok code
        else .ok ((redirectModule parsed.module).1.text parsed.comments) := by
      rw [redirectImports, hparse]
    rw [hout] at hresult
    split at hresult
    · obtain rfl := Except.ok.inj hresult
      exact hout
    · obtain ⟨again, hagain⟩ := hagain
      have htext := Except.ok.inj hresult
      have hsources := hreads parsed.module parsed.comments hparse again (htext ▸ hagain)
      have hnone : HasNoBare again.module := by
        rw [hasNoBare_iff, hsources]
        exact (hasNoBare_iff _).1 (hasNoBare_redirectModule parsed.module)
      rw [redirectImports, hagain]
      exact if_pos ((count_eq_zero_iff again.module).2 hnone)

end Unbundled
