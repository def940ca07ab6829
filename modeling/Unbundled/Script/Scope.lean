import Unbundled.Script.Node

/-!
Which names a script uses without binding them. Parameters are bound in their function and
declared names from their declaration on, up to the end of the function; parameters and the
targets of declarations are not looked into.
-/
namespace Unbundled.Script

/-- The names that patterns bind, in order. -/
def Node.boundNames (patterns : List Node) : List String :=
  (Node.bindingsList patterns).map (·.2)

/-- A name that is used and not bound. A shorthand property uses its own key. -/
structure FreeUse where
  span : Span
  name : String
  isShorthand : Bool
  deriving DecidableEq, Repr

/-- The names in force and the uses that have been found, the latest first. -/
structure Scope where
  bound : List String
  uses : List FreeUse := []

namespace Scope

def refer (s : Scope) (span : Span) (name : String) (isShorthand : Bool) : Scope :=
  if s.bound.contains name then s else { s with uses := ⟨span, name, isShorthand⟩ :: s.uses }

def bind (s : Scope) (names : List String) : Scope := { s with bound := names ++ s.bound }

/-- Looks into a function: its names end with it. -/
def inner (s : Scope) (names : List String) (body : Scope → Scope) : Scope :=
  { body (s.bind names) with bound := s.bound }

end Scope

mutual

/-- Continues `s` over `n`. -/
def Node.scope (n : Node) (s : Scope) : Scope :=
  match n with
  | .ident span text => s.refer span text false
  | .shorthand span text => s.refer span text true
  | .binding .. | .name .. | .privateName .. | .str .. | .number .. | .regex .. | .word ..
  | .importCallee .. | .hole | .metaProperty .. | .invalid .. | .emptyStmt .. | .debuggerStmt ..
  | .breakStmt .. | .continueStmt .. | .importDecl .. | .importDefault .. | .importNamespace ..
  | .importNamed .. | .exportNamed .. | .exportNamespace .. | .exportSpecifier ..
  | .exportAll .. => s
  | .template _ _ es | .array _ es | .object _ es | .sequence _ es | .arrayPattern _ es
  | .objectPattern _ es | .block _ es | .varDecl _ _ es => Node.scopeList es s
  | .spread _ e | .unary _ _ e | .update _ _ _ e | .paren _ e | .awaitExpr _ e | .computed _ e
  | .rest _ e | .staticBlock _ e | .exprStmt _ e | .throwStmt _ e | .labeledStmt _ _ e
  | .exportDecl _ e | .exportDefaultDecl _ e | .exportDefaultExpr _ e | .functionExpr _ _ e
  | .functionDecl _ _ e | .shorthandDefault _ _ e => e.scope s
  | .tagged _ a b | .binary _ _ a b | .assign _ _ a b | .member _ a b | .optionalMember _ _ a b
  | .property _ a b | .getter _ a b | .method _ a b | .classMethod _ _ _ a b | .defaulted _ a b
  | .propertyPattern _ a b | .whileStmt _ a b | .doWhileStmt _ a b => b.scope (a.scope s)
  | .conditional _ a b c | .setter _ a b c | .forInStmt _ a b c | .forOfStmt _ _ a b c =>
    c.scope (b.scope (a.scope s))
  | .call _ a es | .newExpr _ a _ es | .optionalCall _ _ a es | .switchStmt _ a es =>
    Node.scopeList es (a.scope s)
  | .arrow _ _ params body | .function _ _ _ params body =>
    s.inner (Node.boundNames params) body.scope
  | .classConstructor _ key params body => body.scope (Node.scopeList params (key.scope s))
  | .classExpr _ _ parent members | .classDecl _ _ parent members =>
    Node.scopeOption parent (Node.scopeList members s)
  | .field _ _ a b => Node.scopeOption b (a.scope s)
  | .shorthandPattern _ _ value => Node.scopeOption value s
  | .declarator _ target init => Node.scopeOption init (s.bind (Node.boundNames [target]))
  | .yieldExpr _ _ a | .returnStmt _ a => Node.scopeOption a s
  | .switchCase _ a es => Node.scopeList es (Node.scopeOption a s)
  | .ifStmt _ a b c => Node.scopeOption c (b.scope (a.scope s))
  | .tryStmt _ a b c => Node.scopeOption c (Node.scopeOption b (a.scope s))
  | .catchClause _ a b => b.scope (Node.scopeOption a s)
  | .forStmt _ a b c d =>
    d.scope (Node.scopeOption c (Node.scopeOption b (Node.scopeOption a s)))

def Node.scopeList : List Node → Scope → Scope
  | [], s => s
  | n :: ns, s => Node.scopeList ns (n.scope s)

def Node.scopeOption : Option Node → Scope → Scope
  | none, s => s
  | some n, s => n.scope s

end

/-- The names that `n` uses and that neither it nor `bound` binds, in order. -/
def Node.freeUses (bound : List String) (n : Node) : List FreeUse :=
  (n.scope { bound := bound }).uses.reverse

def Module.freeUses (bound : List String) (m : Module) : List FreeUse :=
  (Node.scopeList m.body { bound := bound }).uses.reverse

end Unbundled.Script
