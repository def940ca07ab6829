import Unbundled.Proofs.Success
import Unbundled.Template.Expression
import Mathlib.Data.List.Basic

/-!
# Names that are added to those in force

Two walks over one tree, of which the second has more names in force from the start, differ in the
uses of those names and in nothing else. So a name that a template binds takes its own prefixes away
and leaves the others where they are; in which order names are bound, and how often, does not matter.
-/

namespace Unbundled.Script

/-- `t` is `s` with the names `xs` in force from the start. -/
structure Scope.Hides (xs : List String) (s t : Scope) : Prop where
  bound : ∀ y, y ∈ t.bound ↔ y ∈ xs ∨ y ∈ s.bound
  uses : t.uses = s.uses.filter (·.name ∉ xs)

/-- The uses in trees that stand one after another, as in the body of a script. -/
def Node.freeUsesAll (bound : List String) (ns : List Node) : List FreeUse :=
  (Node.scopeList ns { bound := bound }).uses.reverse

/-! ## The two walks -/

namespace Scope.Hides

variable {xs : List String} {s t : Scope}

lemma refer (h : Hides xs s t) (span : Span) (name : String) (isShorthand : Bool) :
    Hides xs (s.refer span name isShorthand) (t.refer span name isShorthand) := by
  have hbound := h.bound name
  unfold Scope.refer
  by_cases hs : name ∈ s.bound
  · rw [if_pos (by simpa using hs), if_pos (by simpa using hbound.2 (.inr hs))]
    exact h
  · rw [if_neg (by simpa using hs)]
    by_cases hx : name ∈ xs
    · rw [if_pos (by simpa using hbound.2 (.inl hx))]
      exact ⟨h.bound, by simpa [hx] using h.uses⟩
    · rw [if_neg (by simp [hbound, hx, hs])]
      exact ⟨h.bound, by simpa [hx] using h.uses⟩

lemma bind (h : Hides xs s t) (names : List String) : Hides xs (s.bind names) (t.bind names) := by
  refine ⟨fun y => ?_, h.uses⟩
  simp only [Scope.bind, List.mem_append, h.bound]
  exact or_left_comm

/-- What has been bound inside a function ends with it in both walks. -/
lemma inner (h : Hides xs s t) (names : List String) {body : Scope → Scope}
    (hbody : Hides xs (body (s.bind names)) (body (t.bind names))) :
    Hides xs (s.inner names body) (t.inner names body) :=
  ⟨h.bound, hbody.uses⟩

mutual

lemma scope : (n : Node) → {s t : Scope} → Hides xs s t → Hides xs (n.scope s) (n.scope t)
  | .ident .., _, _, h | .shorthand .., _, _, h => h.refer _ _ _
  | .binding .., _, _, h | .name .., _, _, h | .privateName .., _, _, h | .str .., _, _, h
  | .number .., _, _, h | .regex .., _, _, h | .word .., _, _, h | .importCallee .., _, _, h
  | .hole, _, _, h | .metaProperty .., _, _, h | .invalid .., _, _, h | .emptyStmt .., _, _, h
  | .debuggerStmt .., _, _, h | .breakStmt .., _, _, h | .continueStmt .., _, _, h
  | .importDecl .., _, _, h | .importDefault .., _, _, h | .importNamespace .., _, _, h
  | .importNamed .., _, _, h | .exportNamed .., _, _, h | .exportNamespace .., _, _, h
  | .exportSpecifier .., _, _, h | .exportAll .., _, _, h => h
  | .template _ _ es, _, _, h | .array _ es, _, _, h | .object _ es, _, _, h
  | .sequence _ es, _, _, h | .arrayPattern _ es, _, _, h | .objectPattern _ es, _, _, h
  | .block _ es, _, _, h | .varDecl _ _ es, _, _, h => scopeList es h
  | .spread _ e, _, _, h | .unary _ _ e, _, _, h | .update _ _ _ e, _, _, h
  | .paren _ e, _, _, h | .awaitExpr _ e, _, _, h | .computed _ e, _, _, h | .rest _ e, _, _, h
  | .staticBlock _ e, _, _, h | .exprStmt _ e, _, _, h | .throwStmt _ e, _, _, h
  | .labeledStmt _ _ e, _, _, h | .exportDecl _ e, _, _, h | .exportDefaultDecl _ e, _, _, h
  | .exportDefaultExpr _ e, _, _, h | .functionExpr _ _ e, _, _, h
  | .functionDecl _ _ e, _, _, h | .shorthandDefault _ _ e, _, _, h => scope e h
  | .tagged _ a b, _, _, h | .binary _ _ a b, _, _, h | .assign _ _ a b, _, _, h
  | .member _ a b, _, _, h | .optionalMember _ _ a b, _, _, h | .property _ a b, _, _, h
  | .getter _ a b, _, _, h | .method _ a b, _, _, h | .classMethod _ _ _ a b, _, _, h
  | .defaulted _ a b, _, _, h | .propertyPattern _ a b, _, _, h | .whileStmt _ a b, _, _, h
  | .doWhileStmt _ a b, _, _, h => scope b (scope a h)
  | .conditional _ a b c, _, _, h | .setter _ a b c, _, _, h | .forInStmt _ a b c, _, _, h
  | .forOfStmt _ _ a b c, _, _, h => scope c (scope b (scope a h))
  | .call _ a es, _, _, h | .newExpr _ a _ es, _, _, h | .optionalCall _ _ a es, _, _, h
  | .switchStmt _ a es, _, _, h => scopeList es (scope a h)
  -- the names of a function are in force in its body only
  | .arrow _ _ _ body, _, _, h | .function _ _ _ _ body, _, _, h =>
    h.inner _ (scope body (h.bind _))
  | .classConstructor _ key params body, _, _, h => scope body (scopeList params (scope key h))
  | .classExpr _ _ parent members, _, _, h | .classDecl _ _ parent members, _, _, h =>
    scopeOption parent (scopeList members h)
  | .field _ _ a b, _, _, h => scopeOption b (scope a h)
  | .shorthandPattern _ _ value, _, _, h => scopeOption value h
  -- declared names stay in force behind the declaration
  | .declarator _ _ init, _, _, h => scopeOption init (h.bind _)
  | .yieldExpr _ _ a, _, _, h | .returnStmt _ a, _, _, h => scopeOption a h
  | .switchCase _ a es, _, _, h => scopeList es (scopeOption a h)
  | .ifStmt _ a b c, _, _, h => scopeOption c (scope b (scope a h))
  | .tryStmt _ a b c, _, _, h => scopeOption c (scopeOption b (scope a h))
  | .catchClause _ a b, _, _, h => scope b (scopeOption a h)
  | .forStmt _ a b c d, _, _, h => scope d (scopeOption c (scopeOption b (scopeOption a h)))

lemma scopeList : (ns : List Node) → {s t : Scope} → Hides xs s t →
    Hides xs (Node.scopeList ns s) (Node.scopeList ns t)
  | [], _, _, h => h
  | n :: ns, _, _, h => scopeList ns (scope n h)

lemma scopeOption : (n? : Option Node) → {s t : Scope} → Hides xs s t →
    Hides xs (Node.scopeOption n? s) (Node.scopeOption n? t)
  | none, _, _, h => h
  | some n, _, _, h => scope n h

end

end Scope.Hides

/-- With the names `xs` in force, too, the uses are the others of the uses without them. -/
theorem freeUsesAll_of_added {xs bound bound' : List String}
    (h : ∀ y, y ∈ bound' ↔ y ∈ xs ∨ y ∈ bound) (ns : List Node) :
    Node.freeUsesAll bound' ns = (Node.freeUsesAll bound ns).filter (·.name ∉ xs) := by
  have hstart : Scope.Hides xs { bound := bound } { bound := bound' } := ⟨h, rfl⟩
  rw [Node.freeUsesAll, (hstart.scopeList ns).uses, Node.freeUsesAll, List.filter_reverse]

/-- Which names are in force matters, but neither their order nor how often they are there. -/
lemma freeUsesAll_congr {bound bound' : List String} (h : ∀ y, y ∈ bound' ↔ y ∈ bound)
    (ns : List Node) : Node.freeUsesAll bound' ns = Node.freeUsesAll bound ns := by
  rw [freeUsesAll_of_added (show ∀ y, y ∈ bound' ↔ y ∈ [] ∨ y ∈ bound by simpa using h)]
  simp

end Unbundled.Script

namespace Unbundled.Template

/-- The insertions into a source that has been read as `ns`; `shift` octets before it are not part
of it. -/
def edits (scope : List String) (shift : Nat) (ns : List Script.Node) : List Insertion :=
  (Script.Node.freeUsesAll (globals ++ scope) ns).map (insertion shift)

lemma prefixedExpression_eq (scope : List String) (source : String) :
    prefixedExpression scope source = (Script.parseExpression source).map fun e =>
      String.ofList (splice (edits scope 1 [e]) 0 source.toList) := by
  unfold prefixedExpression
  cases Script.parseExpression source <;> rfl

lemma prefixedStatements_eq (scope : List String) (source : String) :
    prefixedStatements scope source = (Script.parseModule "handler" source).map fun parsed =>
      String.ofList (splice (edits scope 0 parsed.module.body) 0 source.toList) := by
  unfold prefixedStatements
  cases Script.parseModule "handler" source <;> rfl

lemma edits_congr {scope scope' : List String} (h : ∀ y, y ∈ scope' ↔ y ∈ scope) :
    edits scope' = edits scope := by
  funext shift ns
  rw [edits, edits, Script.freeUsesAll_congr]
  simp [h]

/-- A name that is added to the scope takes away the insertions for its own uses, and none if it is
not used. Scopes with the same names scope every source alike. -/
theorem edits_of_added {scope scope' : List String} {x : String}
    (h : ∀ y, y ∈ scope' ↔ y = x ∨ y ∈ scope) :
    (∀ shift ns, edits scope' shift ns =
      ((Script.Node.freeUsesAll (globals ++ scope) ns).filter (·.name ≠ x)).map
        (insertion shift)) ∧
    (∀ others, (∀ y, y ∈ others ↔ y ∈ scope') → edits others = edits scope' ∧
      prefixedExpression others = prefixedExpression scope' ∧
      prefixedStatements others = prefixedStatements scope') ∧
    ∀ shift ns, (∀ u ∈ Script.Node.freeUsesAll (globals ++ scope) ns, u.name ≠ x) →
      edits scope' shift ns = edits scope shift ns := by
  have hadded (y : String) : y ∈ globals ++ scope' ↔ y ∈ [x] ∨ y ∈ globals ++ scope := by
    simp only [List.mem_append, h, List.mem_singleton]
    exact or_left_comm
  have hedits (shift : Nat) (ns : List Script.Node) : edits scope' shift ns =
      ((Script.Node.freeUsesAll (globals ++ scope) ns).filter (·.name ≠ x)).map
        (insertion shift) := by
    rw [edits, Script.freeUsesAll_of_added hadded]
    simp only [List.mem_singleton]
  refine ⟨hedits, fun others hothers => ?_, fun shift ns hunused => ?_⟩
  · have hsame := edits_congr hothers
    refine ⟨hsame, funext fun source => ?_, funext fun source => ?_⟩
    · rw [prefixedExpression_eq, prefixedExpression_eq, hsame]
    · rw [prefixedStatements_eq, prefixedStatements_eq, hsame]
  · rw [hedits, edits, List.filter_eq_self.2 (by simpa using hunused)]

/-- The index of a loop beside its item. -/
theorem edits_of_added_index :
    (∀ y, y ∈ ["index", "item"] ↔ y = "index" ∨ y ∈ ["item"]) ∧
      prefixedExpression ["item"] "item[index] + total" =
        .ok "item[_ctx.index] + _ctx.total" ∧
      prefixedExpression ["item", "index", "item"] "item[index] + total" =
        .ok "item[index] + _ctx.total" := by
  have hadded (y : String) : y ∈ ["index", "item"] ↔ y = "index" ∨ y ∈ ["item"] := List.mem_cons
  refine ⟨hadded, by decide +kernel, ?_⟩
  have hothers (y : String) : y ∈ ["item", "index", "item"] ↔ y ∈ ["index", "item"] := by
    simp only [List.mem_cons, List.not_mem_nil, or_false]
    tauto
  rw [((edits_of_added hadded).2.1 _ hothers).2.1]
  decide +kernel

end Unbundled.Template
