import Unbundled.Script.Scope
import Mathlib.Tactic.Lemma

/-!
# Names in reference position

`Refers` says which names of an expression stand in reference position, and inside which arrow
functions. On ordinary expressions the walk over the tree finds those of them that nothing binds,
leaves the names in force as they were, and does not look at what it has found before.
-/

namespace Unbundled.Script

namespace Node

def isHole : Node → Bool
  | hole => true
  | _ => false

/-- The expressions in a key: there is one when the key is in brackets. -/
def keyOperands? : Node → Option (List Node)
  | name .. | str .. | number .. => some []
  | computed _ e => some [e]
  | _ => none

/-- The expressions that an expression is built from, in order. -/
def operands? : Node → Option (List Node)
  | str .. | number .. | regex .. | word .. => some []
  | template _ _ es | object _ es | sequence _ es => some es
  | array _ es => some (es.filter (!·.isHole))
  | spread _ e | unary _ _ e | update _ _ _ e | paren _ e => some [e]
  | binary _ _ a b | assign _ _ a b => some [a, b]
  | conditional _ a b c => some [a, b, c]
  | call _ f es | optionalCall _ _ f es | newExpr _ f _ es => some (f :: es)
  | member _ o p | optionalMember _ _ o p => p.keyOperands?.map (o :: ·)
  | property _ k v => k.keyOperands?.map (· ++ [v])
  | _ => none

end Node

/-- Patterns without default values and without keys in brackets. -/
inductive Plain : Node → Prop
  | binding (sp : Span) (x : String) : Plain (.binding sp x)
  | hole : Plain .hole
  | array {sp : Span} {ps : List Node} (h : ∀ p ∈ ps, Plain p) : Plain (.arrayPattern sp ps)
  | object {sp : Span} {ps : List Node} (h : ∀ p ∈ ps, Plain p) : Plain (.objectPattern sp ps)
  | property {sp : Span} {k p : Node} (key : k.keyOperands? = some []) (h : Plain p) :
      Plain (.propertyPattern sp k p)
  | shorthand {sp : Span} {p : Node} (h : Plain p) : Plain (.shorthandPattern sp p none)
  | rest {sp : Span} {p : Node} (h : Plain p) : Plain (.rest sp p)

/-- The pattern binds the name `x`. -/
inductive Binds : Node → String → Prop
  | binding (sp : Span) (x : String) : Binds (.binding sp x) x
  | array {sp : Span} {ps : List Node} {p : Node} {x : String} (hp : p ∈ ps) (h : Binds p x) :
      Binds (.arrayPattern sp ps) x
  | object {sp : Span} {ps : List Node} {p : Node} {x : String} (hp : p ∈ ps) (h : Binds p x) :
      Binds (.objectPattern sp ps) x
  | property {sp : Span} {k p : Node} {x : String} (h : Binds p x) :
      Binds (.propertyPattern sp k p) x
  | shorthand {sp : Span} {p : Node} {x : String} (h : Binds p x) :
      Binds (.shorthandPattern sp p none) x
  | rest {sp : Span} {p : Node} {x : String} (h : Binds p x) : Binds (.rest sp p) x

/-- The pattern binds the name `x`; its default values and keys do not matter. -/
inductive Declares : Node → String → Prop
  | binding (sp : Span) (x : String) : Declares (.binding sp x) x
  | array {sp : Span} {ps : List Node} {p : Node} {x : String} (hp : p ∈ ps)
      (h : Declares p x) : Declares (.arrayPattern sp ps) x
  | object {sp : Span} {ps : List Node} {p : Node} {x : String} (hp : p ∈ ps)
      (h : Declares p x) : Declares (.objectPattern sp ps) x
  | rest {sp : Span} {p : Node} {x : String} (h : Declares p x) : Declares (.rest sp p) x
  | defaulted {sp : Span} {p value : Node} {x : String} (h : Declares p x) :
      Declares (.defaulted sp p value) x
  | property {sp : Span} {key p : Node} {x : String} (h : Declares p x) :
      Declares (.propertyPattern sp key p) x
  | shorthand {sp : Span} {p : Node} {value? : Option Node} {x : String} (h : Declares p x) :
      Declares (.shorthandPattern sp p value?) x

/-- Expressions made of names, operands and arrow functions that return an expression. -/
inductive Ordinary : Node → Prop
  | ident (sp : Span) (x : String) : Ordinary (.ident sp x)
  | shorthand (sp : Span) (x : String) : Ordinary (.shorthand sp x)
  | compound {n : Node} {es : List Node} (operands : n.operands? = some es)
      (h : ∀ e ∈ es, Ordinary e) : Ordinary n
  | arrow {sp : Span} {isAsync : Bool} {ps : List Node} {body : Node}
      (params : ∀ p ∈ ps, Plain p) (h : Ordinary body) : Ordinary (.arrow sp isAsync ps body)

/-- In the expression, `u` stands in reference position, and `ps` are the parameters of the arrow
functions around it. -/
inductive Refers : Node → List Node → FreeUse → Prop
  | ident (sp : Span) (x : String) : Refers (.ident sp x) [] ⟨sp, x, false⟩
  | shorthand (sp : Span) (x : String) : Refers (.shorthand sp x) [] ⟨sp, x, true⟩
  | compound {n e : Node} {es ps : List Node} {u : FreeUse} (operands : n.operands? = some es)
      (he : e ∈ es) (h : Refers e ps u) : Refers n ps u
  | arrow {sp : Span} {isAsync : Bool} {ps qs : List Node} {body : Node} {u : FreeUse}
      (h : Refers body qs u) : Refers (.arrow sp isAsync ps body) (ps ++ qs) u

/-- `u` refers to a name that is not in `bound` and that no arrow function around it binds. -/
def IsFree (bound : List String) (n : Node) (u : FreeUse) : Prop :=
  ∃ ps, Refers n ps u ∧ u.name ∉ bound ∧ ∀ p ∈ ps, ¬ Binds p u.name

/-! ## Names that patterns bind -/

lemma boundNames_cons (p : Node) (ps : List Node) :
    Node.boundNames (p :: ps) = Node.boundNames [p] ++ Node.boundNames ps := by
  simp [Node.boundNames, Node.bindingsList]

lemma mem_boundNames_iff {ps : List Node} {x : String} :
    x ∈ Node.boundNames ps ↔ ∃ p ∈ ps, x ∈ Node.boundNames [p] := by
  induction ps with
  | nil => simp [Node.boundNames, Node.bindingsList]
  | cons p ps ih => simp [boundNames_cons p ps, ih]

lemma boundNames_parts {p : Node} {ps : List Node} (h : p.bindings = Node.bindingsList ps) :
    Node.boundNames [p] = Node.boundNames ps := by
  simp [Node.boundNames, Node.bindingsList, h]

lemma declares_iff_bindings {x : String} :
    (∀ p : Node, Declares p x ↔ ∃ sp, (sp, x) ∈ p.bindings) ∧
      ∀ ps : List Node, (∃ p ∈ ps, Declares p x) ↔ ∃ sp, (sp, x) ∈ Node.bindingsList ps := by
  apply Node.bindings.mutual_induct
  case case1 =>
    intro sp y
    rw [Node.bindings]
    constructor
    · rintro ⟨⟩
      exact ⟨sp, by simp⟩
    · rintro ⟨sp', h⟩
      cases List.mem_singleton.1 h
      exact .binding sp x
  case case2 =>
    intro sp ps ih
    rw [Node.bindings, ← ih]
    exact ⟨fun h => by cases h with | array hp h => exact ⟨_, hp, h⟩, fun ⟨p, hp, h⟩ => .array hp h⟩
  case case3 =>
    intro sp ps ih
    rw [Node.bindings, ← ih]
    exact ⟨fun h => by cases h with | object hp h => exact ⟨_, hp, h⟩,
      fun ⟨p, hp, h⟩ => .object hp h⟩
  case case4 =>
    intro sp p ih
    rw [Node.bindings, ← ih]
    exact ⟨fun h => by cases h with | rest h => exact h, .rest⟩
  case case5 =>
    intro sp p value ih
    rw [Node.bindings, ← ih]
    exact ⟨fun h => by cases h with | defaulted h => exact h, .defaulted⟩
  case case6 =>
    intro sp key p ih
    rw [Node.bindings, ← ih]
    exact ⟨fun h => by cases h with | property h => exact h, .property⟩
  case case7 =>
    intro sp p value ih
    rw [Node.bindings, ← ih]
    exact ⟨fun h => by cases h with | shorthand h => exact h, .shorthand⟩
  case case8 =>
    intro p h₁ h₂ h₃ h₄ h₅ h₆ h₇
    rw [Node.bindings.eq_8 p h₁ h₂ h₃ h₄ h₅ h₆ h₇]
    constructor
    · intro h
      cases h with
      | binding => exact absurd rfl (h₁ _ _)
      | array => exact absurd rfl (h₂ _ _)
      | object => exact absurd rfl (h₃ _ _)
      | rest => exact absurd rfl (h₄ _ _)
      | defaulted => exact absurd rfl (h₅ _ _ _)
      | property => exact absurd rfl (h₆ _ _ _)
      | shorthand => exact absurd rfl (h₇ _ _ _)
    · rintro ⟨sp, h⟩
      cases h
  case case9 => simp [Node.bindingsList]
  case case10 =>
    intro p ps hp hps
    simp only [Node.bindingsList, List.mem_append, exists_or, List.mem_cons, exists_eq_or_imp, hp,
      hps]

/-- The names that patterns bind are those that one of them declares. -/
theorem mem_boundNames {ps : List Node} {x : String} :
    x ∈ Node.boundNames ps ↔ ∃ p ∈ ps, Declares p x := by
  rw [declares_iff_bindings.2, Node.boundNames, List.mem_map]
  constructor
  · rintro ⟨⟨sp, y⟩, h, rfl⟩
    exact ⟨sp, h⟩
  · rintro ⟨sp, h⟩
    exact ⟨(sp, x), h, rfl⟩

lemma mem_boundNames_of_plain {p : Node} {x : String} (h : Plain p) :
    x ∈ Node.boundNames [p] ↔ Binds p x := by
  induction h with
  | binding sp y =>
    have hnames : Node.boundNames [.binding sp y] = [y] := rfl
    rw [hnames, List.mem_singleton]
    constructor
    · rintro rfl
      exact .binding sp x
    · rintro ⟨⟩
      rfl
  | hole =>
    have hnames : Node.boundNames [.hole] = [] := rfl
    rw [hnames]
    constructor
    · rintro ⟨⟩
    · rintro ⟨⟩
  | array h ih =>
    rw [boundNames_parts rfl, mem_boundNames_iff]
    constructor
    · rintro ⟨p, hp, hx⟩
      exact .array hp ((ih p hp).1 hx)
    · intro hx
      cases hx with
      | array hp hx => exact ⟨_, hp, (ih _ hp).2 hx⟩
  | object h ih =>
    rw [boundNames_parts rfl, mem_boundNames_iff]
    constructor
    · rintro ⟨p, hp, hx⟩
      exact .object hp ((ih p hp).1 hx)
    · intro hx
      cases hx with
      | object hp hx => exact ⟨_, hp, (ih _ hp).2 hx⟩
  | property key h ih =>
    constructor
    · intro hx
      exact .property (ih.1 hx)
    · intro hx
      cases hx with
      | property hx => exact ih.2 hx
  | shorthand h ih =>
    constructor
    · intro hx
      exact .shorthand (ih.1 hx)
    · intro hx
      cases hx with
      | shorthand hx => exact ih.2 hx
  | rest h ih =>
    constructor
    · intro hx
      exact .rest (ih.1 hx)
    · intro hx
      cases hx with
      | rest hx => exact ih.2 hx

lemma not_mem_boundNames_iff {ps : List Node} (h : ∀ p ∈ ps, Plain p) (x : String) :
    x ∉ Node.boundNames ps ↔ ∀ p ∈ ps, ¬ Binds p x := by
  rw [mem_boundNames_iff]
  constructor
  · intro hx p hp hbinds
    exact hx ⟨p, hp, (mem_boundNames_of_plain (h p hp)).2 hbinds⟩
  · rintro hx ⟨p, hp, hmem⟩
    exact hx p hp ((mem_boundNames_of_plain (h p hp)).1 hmem)

/-! ## The walk over an ordinary expression -/

lemma scopeList_filter_holes (es : List Node) (s : Scope) :
    Node.scopeList (es.filter (!·.isHole)) s = Node.scopeList es s := by
  induction es generalizing s with
  | nil => rfl
  | cons e es ih =>
    cases he : e.isHole with
    | true =>
      have hskip : e.scope s = s := by
        cases e with
        | hole => rfl
        | _ => cases he
      rw [List.filter_cons_of_neg (by simp [he]), ih, Node.scopeList, hskip]
    | false => rw [List.filter_cons_of_pos (by simp [he]), Node.scopeList, Node.scopeList, ih]

lemma scopeList_keyOperands {k : Node} {es : List Node} (h : k.keyOperands? = some es)
    (s : Scope) : Node.scopeList es s = k.scope s := by
  cases k <;> cases h <;> rfl

lemma scopeList_append (es fs : List Node) (s : Scope) :
    Node.scopeList (es ++ fs) s = Node.scopeList fs (Node.scopeList es s) := by
  induction es generalizing s with
  | nil => rfl
  | cons e es ih => exact ih (e.scope s)

/-- The walk over a compound expression is the walk over its operands. -/
lemma scope_compound {n : Node} {es : List Node} (h : n.operands? = some es) (s : Scope) :
    n.scope s = Node.scopeList es s := by
  cases n with
  | array sp es =>
    cases h
    exact (scopeList_filter_holes es s).symm
  | member sp o p | optionalMember sp isOptional o p =>
    obtain ⟨es, hes, rfl⟩ := Option.map_eq_some_iff.1 h
    exact (scopeList_keyOperands hes (o.scope s)).symm
  | property sp k v =>
    obtain ⟨es, hes, rfl⟩ := Option.map_eq_some_iff.1 h
    rw [scopeList_append, scopeList_keyOperands hes]
    rfl
  | _ => cases h <;> rfl

/-- The walk over `n` puts its free uses before those found so far, and changes nothing else. -/
def Node.Adds (n : Node) (s : Scope) : Prop :=
  n.scope s = { s with uses := (n.freeUses s.bound).reverse ++ s.uses }

lemma scopeList_of_adds {es : List Node} (h : ∀ e ∈ es, ∀ s, e.Adds s) (s : Scope) :
    Node.scopeList es s =
      { s with uses := (es.flatMap (Node.freeUses s.bound)).reverse ++ s.uses } := by
  induction es generalizing s with
  | nil => rfl
  | cons e es ih =>
    rw [Node.scopeList, h e (by simp) s, ih (fun e he => h e (by simp [he]))]
    simp

lemma freeUses_ident (bound : List String) (sp : Span) (x : String) :
    (Node.ident sp x).freeUses bound = if x ∈ bound then [] else [⟨sp, x, false⟩] := by
  by_cases hx : x ∈ bound <;> simp [Node.freeUses, Node.scope, Scope.refer, hx]

lemma freeUses_shorthand (bound : List String) (sp : Span) (x : String) :
    (Node.shorthand sp x).freeUses bound = if x ∈ bound then [] else [⟨sp, x, true⟩] := by
  by_cases hx : x ∈ bound <;> simp [Node.freeUses, Node.scope, Scope.refer, hx]

lemma freeUses_arrow (bound : List String) (sp : Span) (isAsync : Bool) (ps : List Node)
    (body : Node) : (Node.arrow sp isAsync ps body).freeUses bound =
      body.freeUses (Node.boundNames ps ++ bound) := rfl

theorem adds_of_ordinary {n : Node} (h : Ordinary n) (s : Scope) : n.Adds s := by
  induction h generalizing s with
  | ident sp x =>
    by_cases hx : x ∈ s.bound <;>
      simp [Node.Adds, freeUses_ident, Node.scope, Scope.refer, hx]
  | shorthand sp x =>
    by_cases hx : x ∈ s.bound <;>
      simp [Node.Adds, freeUses_shorthand, Node.scope, Scope.refer, hx]
  | compound operands h ih =>
    rw [Node.Adds, Node.freeUses, scope_compound operands, scope_compound operands,
      scopeList_of_adds ih, scopeList_of_adds ih]
    simp
  | arrow params h ih =>
    rw [Node.Adds, freeUses_arrow, Node.scope, Scope.inner, ih]
    rfl

lemma freeUses_compound {n : Node} {es : List Node} (operands : n.operands? = some es)
    (h : ∀ e ∈ es, Ordinary e) (bound : List String) :
    n.freeUses bound = es.flatMap (Node.freeUses bound) := by
  rw [Node.freeUses, scope_compound operands,
    scopeList_of_adds fun e he => adds_of_ordinary (h e he)]
  simp

/-! ## Free uses are the free names in reference position -/

lemma isFree_ident {bound : List String} {sp : Span} {x : String} {u : FreeUse} :
    IsFree bound (.ident sp x) u ↔ u = ⟨sp, x, false⟩ ∧ x ∉ bound := by
  constructor
  · rintro ⟨ps, hrefers, hbound, -⟩
    cases hrefers with
    | ident => exact ⟨rfl, hbound⟩
    | compound operands => cases operands
  · rintro ⟨rfl, hbound⟩
    exact ⟨[], .ident sp x, hbound, by simp⟩

lemma isFree_shorthand {bound : List String} {sp : Span} {x : String} {u : FreeUse} :
    IsFree bound (.shorthand sp x) u ↔ u = ⟨sp, x, true⟩ ∧ x ∉ bound := by
  constructor
  · rintro ⟨ps, hrefers, hbound, -⟩
    cases hrefers with
    | shorthand => exact ⟨rfl, hbound⟩
    | compound operands => cases operands
  · rintro ⟨rfl, hbound⟩
    exact ⟨[], .shorthand sp x, hbound, by simp⟩

lemma isFree_compound {bound : List String} {n : Node} {es : List Node} {u : FreeUse}
    (operands : n.operands? = some es) : IsFree bound n u ↔ ∃ e ∈ es, IsFree bound e u := by
  constructor
  · rintro ⟨ps, hrefers, hfree⟩
    cases hrefers with
    | compound operands' he h =>
      obtain rfl := Option.some.inj (operands.symm.trans operands')
      exact ⟨_, he, ps, h, hfree⟩
    | _ => cases operands
  · rintro ⟨e, he, ps, hrefers, hfree⟩
    exact ⟨ps, .compound operands he hrefers, hfree⟩

/-- What an arrow function binds is bound in its body. -/
lemma isFree_arrow {bound : List String} {sp : Span} {isAsync : Bool} {ps : List Node}
    {body : Node} {u : FreeUse} (params : ∀ p ∈ ps, Plain p) :
    IsFree bound (.arrow sp isAsync ps body) u ↔
      IsFree (Node.boundNames ps ++ bound) body u := by
  have hnames := not_mem_boundNames_iff params u.name
  constructor
  · rintro ⟨rs, hrefers, hbound, hbinds⟩
    cases hrefers with
    | compound operands => cases operands
    | @arrow _ _ _ qs _ _ h =>
      have hps := hnames.2 fun p hp => hbinds p (by simp [hp])
      refine ⟨qs, h, ?_, fun p hp => hbinds p (by simp [hp])⟩
      rw [List.mem_append]
      rintro (hmem | hmem)
      · exact hps hmem
      · exact hbound hmem
  · rintro ⟨qs, hrefers, hbound, hbinds⟩
    rw [List.mem_append, not_or] at hbound
    refine ⟨ps ++ qs, .arrow hrefers, hbound.2, fun p hp => ?_⟩
    rcases List.mem_append.1 hp with hp | hp
    · exact hnames.1 hbound.1 p hp
    · exact hbinds p hp

/-- The walk over an ordinary expression finds its free names in reference position and nothing
else. -/
theorem mem_freeUses_iff {n : Node} (h : Ordinary n) (bound : List String) (u : FreeUse) :
    u ∈ n.freeUses bound ↔ IsFree bound n u := by
  induction h generalizing bound with
  | ident sp x =>
    rw [freeUses_ident, isFree_ident]
    by_cases hx : x ∈ bound <;> simp [hx]
  | shorthand sp x =>
    rw [freeUses_shorthand, isFree_shorthand]
    by_cases hx : x ∈ bound <;> simp [hx]
  | compound operands h ih =>
    rw [freeUses_compound operands h, isFree_compound operands, List.mem_flatMap]
    exact exists_congr fun e => and_congr_right fun he => ih e he bound
  | arrow params h ih => rw [freeUses_arrow, isFree_arrow params, ih]

end Unbundled.Script
