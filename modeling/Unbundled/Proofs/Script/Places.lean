import Unbundled.Script.Sources
import Mathlib.Tactic.Lemma

/-!
# Places in a tree

A place is the list of the numbers of the children that lead to it from the root. `Node.children`
lists what is right below a node and `Node.mapChildren` replaces it, so that a walk over all
constructors is one step and a recursion over places.
-/

namespace Unbundled.Script

namespace Node

/-- What is right below a node, in the order of `collect`. -/
def children : Node → List Node
  | ident .. | binding .. | name .. | privateName .. | str .. | number .. | regex .. | word ..
  | importCallee .. | hole | metaProperty .. | invalid .. | shorthand .. | emptyStmt ..
  | debuggerStmt .. => []
  | template _ _ es | array _ es | object _ es | sequence _ es | arrayPattern _ es
  | objectPattern _ es | block _ es | varDecl _ _ es => es
  | spread _ e | unary _ _ e | update _ _ _ e | paren _ e | awaitExpr _ e | computed _ e
  | rest _ e | staticBlock _ e | exprStmt _ e | throwStmt _ e | exportDecl _ e
  | exportDefaultDecl _ e | exportDefaultExpr _ e | importDefault _ e | importNamespace _ e
  | exportNamespace _ e | exportAll _ e => [e]
  | tagged _ a b | binary _ _ a b | assign _ _ a b | member _ a b | optionalMember _ _ a b
  | shorthandDefault _ a b | property _ a b | getter _ a b | method _ a b
  | classMethod _ _ _ a b | defaulted _ a b | propertyPattern _ a b | labeledStmt _ a b
  | whileStmt _ a b | functionDecl _ a b => [a, b]
  | doWhileStmt _ a b => [b, a]
  | conditional _ a b c | setter _ a b c | forInStmt _ a b c | forOfStmt _ _ a b c => [a, b, c]
  | call _ a es | newExpr _ a _ es | optionalCall _ _ a es | switchStmt _ a es => a :: es
  | arrow _ _ es b | function _ _ _ es b | importDecl _ _ es b => es ++ [b]
  | classConstructor _ a es b => a :: es ++ [b]
  | classExpr _ a b es => a.toList ++ es ++ b.toList
  | classDecl _ a b es => a :: es ++ b.toList
  | functionExpr _ a b | catchClause _ a b => a.toList ++ [b]
  | field _ _ a b | shorthandPattern _ a b | declarator _ a b | importNamed _ a b
  | exportSpecifier _ a b => a :: b.toList
  | yieldExpr _ _ a | returnStmt _ a | breakStmt _ a | continueStmt _ a => a.toList
  | switchCase _ a es => a.toList ++ es
  | exportNamed _ es a => es ++ a.toList
  | ifStmt _ a b c => a :: b :: c.toList
  | tryStmt _ a b c => a :: (b.toList ++ c.toList)
  | forStmt _ a b c d => a.toList ++ b.toList ++ c.toList ++ [d]

/-- The node with `g` applied to what is right below it. -/
def mapChildren (g : Node → Node) : Node → Node
  | template s quasis es => template s quasis (es.map g)
  | tagged s a b => tagged s (g a) (g b)
  | array s es => array s (es.map g)
  | spread s e => spread s (g e)
  | object s es => object s (es.map g)
  | functionExpr s a b => functionExpr s (a.map g) (g b)
  | classExpr s a b es => classExpr s (a.map g) (b.map g) (es.map g)
  | arrow s isAsync es b => arrow s isAsync (es.map g) (g b)
  | unary s op e => unary s op (g e)
  | update s op isPrefix e => update s op isPrefix (g e)
  | binary s op a b => binary s op (g a) (g b)
  | assign s op a b => assign s op (g a) (g b)
  | conditional s a b c => conditional s (g a) (g b) (g c)
  | member s a b => member s (g a) (g b)
  | call s a es => call s (g a) (es.map g)
  | newExpr s a hasArgs es => newExpr s (g a) hasArgs (es.map g)
  | optionalMember s optional a b => optionalMember s optional (g a) (g b)
  | optionalCall s optional a es => optionalCall s optional (g a) (es.map g)
  | sequence s es => sequence s (es.map g)
  | paren s e => paren s (g e)
  | awaitExpr s e => awaitExpr s (g e)
  | yieldExpr s delegate a => yieldExpr s delegate (a.map g)
  | computed s e => computed s (g e)
  | shorthandDefault s a b => shorthandDefault s (g a) (g b)
  | property s a b => property s (g a) (g b)
  | getter s a b => getter s (g a) (g b)
  | setter s a b c => setter s (g a) (g b) (g c)
  | method s a b => method s (g a) (g b)
  | function s isAsync isGenerator es b => function s isAsync isGenerator (es.map g) (g b)
  | classConstructor s a es b => classConstructor s (g a) (es.map g) (g b)
  | classMethod s kind isStatic a b => classMethod s kind isStatic (g a) (g b)
  | field s isStatic a b => field s isStatic (g a) (b.map g)
  | staticBlock s e => staticBlock s (g e)
  | arrayPattern s es => arrayPattern s (es.map g)
  | objectPattern s es => objectPattern s (es.map g)
  | defaulted s a b => defaulted s (g a) (g b)
  | rest s e => rest s (g e)
  | propertyPattern s a b => propertyPattern s (g a) (g b)
  | shorthandPattern s a b => shorthandPattern s (g a) (b.map g)
  | block s es => block s (es.map g)
  | exprStmt s e => exprStmt s (g e)
  | varDecl s kind es => varDecl s kind (es.map g)
  | declarator s a b => declarator s (g a) (b.map g)
  | functionDecl s a b => functionDecl s (g a) (g b)
  | classDecl s a b es => classDecl s (g a) (b.map g) (es.map g)
  | returnStmt s a => returnStmt s (a.map g)
  | throwStmt s e => throwStmt s (g e)
  | labeledStmt s a b => labeledStmt s (g a) (g b)
  | breakStmt s a => breakStmt s (a.map g)
  | continueStmt s a => continueStmt s (a.map g)
  | ifStmt s a b c => ifStmt s (g a) (g b) (c.map g)
  | switchStmt s a es => switchStmt s (g a) (es.map g)
  | switchCase s a es => switchCase s (a.map g) (es.map g)
  | tryStmt s a b c => tryStmt s (g a) (b.map g) (c.map g)
  | catchClause s a b => catchClause s (a.map g) (g b)
  | whileStmt s a b => whileStmt s (g a) (g b)
  | doWhileStmt s a b => doWhileStmt s (g a) (g b)
  | forStmt s a b c d => forStmt s (a.map g) (b.map g) (c.map g) (g d)
  | forInStmt s a b c => forInStmt s (g a) (g b) (g c)
  | forOfStmt s isAwait a b c => forOfStmt s isAwait (g a) (g b) (g c)
  | importDecl s phase es b => importDecl s phase (es.map g) (g b)
  | importDefault s e => importDefault s (g e)
  | importNamespace s e => importNamespace s (g e)
  | importNamed s a b => importNamed s (g a) (b.map g)
  | exportDecl s e => exportDecl s (g e)
  | exportDefaultDecl s e => exportDefaultDecl s (g e)
  | exportDefaultExpr s e => exportDefaultExpr s (g e)
  | exportNamed s es a => exportNamed s (es.map g) (a.map g)
  | exportNamespace s e => exportNamespace s (g e)
  | exportSpecifier s a b => exportSpecifier s (g a) (b.map g)
  | exportAll s e => exportAll s (g e)
  | n => n

/-- The node without what is below it. -/
def top (n : Node) : Node := n.mapChildren fun _ => hole

/-- The node at a place. -/
def at? (n : Node) : List Nat → Option Node
  | [] => some n
  | i :: p => n.children[i]?.bind (·.at? p)

end Node

lemma children_mapChildren (g : Node → Node) (n : Node) :
    (n.mapChildren g).children = n.children.map g := by
  cases n <;> simp only [Node.mapChildren, Node.children, List.map_nil, List.map_cons,
    List.map_append, Option.toList_map]

lemma mapChildren_mapChildren (g h : Node → Node) (n : Node) :
    (n.mapChildren h).mapChildren g = n.mapChildren (g ∘ h) := by
  cases n <;> simp only [Node.mapChildren, List.map_map, Option.map_map, Function.comp_apply]

lemma top_mapChildren (g : Node → Node) (n : Node) : (n.mapChildren g).top = n.top :=
  mapChildren_mapChildren _ g n

lemma sizeOf_lt_of_mem_children {c n : Node} (h : c ∈ n.children) : sizeOf c < sizeOf n := by
  have hlist {es : List Node} (hc : c ∈ es) : sizeOf c < sizeOf es := List.sizeOf_lt_of_mem hc
  cases n <;> simp [Node.children] at h <;> grind

/-- Induction on a tree: what holds of a node when it holds of all that is right below it. -/
theorem Node.induction {P : Node → Prop} (h : ∀ n, (∀ c ∈ n.children, P c) → P n) (n : Node) :
    P n :=
  h n fun c _ => Node.induction h c
termination_by sizeOf n
decreasing_by exact sizeOf_lt_of_mem_children ‹_›

/-! ## The walks of the library -/

lemma collectList_eq {α : Type} (f : Node → List α) (es : List Node) :
    Node.collectList f es = es.flatMap (Node.collect f) := by
  induction es with
  | nil => rfl
  | cons e es ih => rw [Node.collectList, ih, List.flatMap_cons]

lemma collectOption_eq {α : Type} (f : Node → List α) (e? : Option Node) :
    Node.collectOption f e? = e?.toList.flatMap (Node.collect f) := by
  cases e? <;> simp [Node.collectOption]

lemma collect_eq {α : Type} (f : Node → List α) (n : Node) :
    n.collect f = f n ++ n.children.flatMap (Node.collect f) := by
  cases n <;> simp only [Node.collect, Node.children, collectList_eq, collectOption_eq,
    List.flatMap_cons, List.flatMap_nil, List.flatMap_append, List.append_nil, List.append_assoc]

lemma mapSourcesList_eq (f : String → Option String) (es : List Node) :
    Node.mapSourcesList f es = es.map (Node.mapSources f) := by
  induction es with
  | nil => rfl
  | cons e es ih => rw [Node.mapSourcesList, ih, List.map_cons]

lemma mapSourcesOption_eq (f : String → Option String) (e? : Option Node) :
    Node.mapSourcesOption f e? = e?.map (Node.mapSources f) := by
  cases e? <;> rfl

lemma isImport_mapSources (f : String → Option String) (n : Node) :
    (n.mapSources f).isImport = n.isImport := by
  cases n <;> rfl

/-- The node with the literal changed by which it names a module itself. -/
def Node.reviseOwn (f : String → Option String) : Node → Node
  | .importDecl s phase specifiers source => .importDecl s phase specifiers (source.revalue f)
  | .exportAll s source => .exportAll s (source.revalue f)
  | .exportNamed s specifiers source => .exportNamed s specifiers (source.map (Node.revalue f))
  | .call s callee args => .call s callee (if callee.isImport then revalueFirst f args else args)
  | n => n

/-- The sources of a node change below it first and then in the node itself. -/
lemma mapSources_eq (f : String → Option String) (n : Node) :
    n.mapSources f = (n.mapChildren (Node.mapSources f)).reviseOwn f := by
  cases n <;> simp only [Node.mapSources, Node.mapChildren, Node.reviseOwn, mapSourcesList_eq,
    mapSourcesOption_eq, isImport_mapSources]

end Unbundled.Script
