import Unbundled.Script.Traverse

/-!
The strings by which a script names other modules: behind `from`, after a bare `import`, and as
the first argument of `import()`. `Node.sources` lists them; `Node.mapSources` changes them and
nothing else.
-/
namespace Unbundled.Script

def Node.isImport : Node → Bool
  | .importCallee .. => true
  | _ => false

/-- The value of a string literal. -/
def Node.literal? : Node → Option String
  | .str _ value _ => some value
  | _ => none

/-- The strings with which `n` itself, and nothing below it, names modules. -/
def Node.ownSources : Node → List String
  | .importDecl _ _ _ source | .exportAll _ source | .exportNamed _ _ (some source) =>
    source.literal?.toList
  | .call _ callee (arg :: _) => if callee.isImport then arg.literal?.toList else []
  | _ => []

def Node.sources (n : Node) : List String := n.collect Node.ownSources

def Module.sources (m : Module) : List String := Node.collectList Node.ownSources m.body

/-- How the literal that was written as `raw` is written with another value: in the same quotes,
if the value needs no escapes there. -/
def requote? (raw : Option String) (value : String) : Option String :=
  let quote := match raw.bind (·.toList.head?) with
    | some '\'' => '\''
    | _ => '"'
  let cs := value.toList
  if cs.contains quote || cs.contains '\\' then none
  else some (String.ofList (quote :: cs ++ [quote]))

/-- A string literal with a new value, where `f` has one. -/
def Node.revalue (f : String → Option String) : Node → Node
  | .str s value raw =>
    match f value with
    | some new => .str s new (requote? raw new)
    | none => .str s value raw
  | n => n

def revalueFirst (f : String → Option String) : List Node → List Node
  | n :: ns => n.revalue f :: ns
  | [] => []

mutual

/-- Changes the strings that name modules, in `n` and below it. -/
def Node.mapSources (f : String → Option String) : Node → Node
  | .importDecl s phase specifiers source =>
    .importDecl s phase (Node.mapSourcesList f specifiers) ((source.mapSources f).revalue f)
  | .exportAll s source => .exportAll s ((source.mapSources f).revalue f)
  | .exportNamed s specifiers source =>
    .exportNamed s (Node.mapSourcesList f specifiers)
      ((Node.mapSourcesOption f source).map (Node.revalue f))
  | .call s callee args =>
    .call s (callee.mapSources f)
      (if callee.isImport then revalueFirst f (Node.mapSourcesList f args)
        else Node.mapSourcesList f args)
  | .template s quasis exprs => .template s quasis (Node.mapSourcesList f exprs)
  | .tagged s tag quasi => .tagged s (tag.mapSources f) (quasi.mapSources f)
  | .array s elements => .array s (Node.mapSourcesList f elements)
  | .spread s arg => .spread s (arg.mapSources f)
  | .object s properties => .object s (Node.mapSourcesList f properties)
  | .functionExpr s id fn => .functionExpr s (Node.mapSourcesOption f id) (fn.mapSources f)
  | .classExpr s id superClass members =>
    .classExpr s (Node.mapSourcesOption f id) (Node.mapSourcesOption f superClass)
      (Node.mapSourcesList f members)
  | .arrow s isAsync params body =>
    .arrow s isAsync (Node.mapSourcesList f params) (body.mapSources f)
  | .unary s op arg => .unary s op (arg.mapSources f)
  | .update s op isPrefix arg => .update s op isPrefix (arg.mapSources f)
  | .binary s op left right => .binary s op (left.mapSources f) (right.mapSources f)
  | .assign s op target value => .assign s op (target.mapSources f) (value.mapSources f)
  | .conditional s test yes no =>
    .conditional s (test.mapSources f) (yes.mapSources f) (no.mapSources f)
  | .member s left key => .member s (left.mapSources f) (key.mapSources f)
  | .newExpr s callee hasArgs args =>
    .newExpr s (callee.mapSources f) hasArgs (Node.mapSourcesList f args)
  | .optionalMember s optional left key =>
    .optionalMember s optional (left.mapSources f) (key.mapSources f)
  | .optionalCall s optional callee args =>
    .optionalCall s optional (callee.mapSources f) (Node.mapSourcesList f args)
  | .sequence s exprs => .sequence s (Node.mapSourcesList f exprs)
  | .paren s expr => .paren s (expr.mapSources f)
  | .awaitExpr s arg => .awaitExpr s (arg.mapSources f)
  | .yieldExpr s delegate arg => .yieldExpr s delegate (Node.mapSourcesOption f arg)
  | .computed s expr => .computed s (expr.mapSources f)
  | .shorthandDefault s key value => .shorthandDefault s (key.mapSources f) (value.mapSources f)
  | .property s key value => .property s (key.mapSources f) (value.mapSources f)
  | .getter s key body => .getter s (key.mapSources f) (body.mapSources f)
  | .setter s key param body =>
    .setter s (key.mapSources f) (param.mapSources f) (body.mapSources f)
  | .method s key fn => .method s (key.mapSources f) (fn.mapSources f)
  | .function s isAsync isGenerator params body =>
    .function s isAsync isGenerator (Node.mapSourcesList f params) (body.mapSources f)
  | .classConstructor s key params body =>
    .classConstructor s (key.mapSources f) (Node.mapSourcesList f params) (body.mapSources f)
  | .classMethod s kind isStatic key fn =>
    .classMethod s kind isStatic (key.mapSources f) (fn.mapSources f)
  | .field s isStatic key value =>
    .field s isStatic (key.mapSources f) (Node.mapSourcesOption f value)
  | .staticBlock s body => .staticBlock s (body.mapSources f)
  | .arrayPattern s elements => .arrayPattern s (Node.mapSourcesList f elements)
  | .objectPattern s properties => .objectPattern s (Node.mapSourcesList f properties)
  | .defaulted s target value => .defaulted s (target.mapSources f) (value.mapSources f)
  | .rest s target => .rest s (target.mapSources f)
  | .propertyPattern s key target => .propertyPattern s (key.mapSources f) (target.mapSources f)
  | .shorthandPattern s target value =>
    .shorthandPattern s (target.mapSources f) (Node.mapSourcesOption f value)
  | .block s body => .block s (Node.mapSourcesList f body)
  | .exprStmt s expr => .exprStmt s (expr.mapSources f)
  | .varDecl s kind declarators => .varDecl s kind (Node.mapSourcesList f declarators)
  | .declarator s target init => .declarator s (target.mapSources f) (Node.mapSourcesOption f init)
  | .functionDecl s id fn => .functionDecl s (id.mapSources f) (fn.mapSources f)
  | .classDecl s id superClass members =>
    .classDecl s (id.mapSources f) (Node.mapSourcesOption f superClass)
      (Node.mapSourcesList f members)
  | .returnStmt s arg => .returnStmt s (Node.mapSourcesOption f arg)
  | .throwStmt s arg => .throwStmt s (arg.mapSources f)
  | .labeledStmt s label body => .labeledStmt s (label.mapSources f) (body.mapSources f)
  | .breakStmt s label => .breakStmt s (Node.mapSourcesOption f label)
  | .continueStmt s label => .continueStmt s (Node.mapSourcesOption f label)
  | .ifStmt s test yes no =>
    .ifStmt s (test.mapSources f) (yes.mapSources f) (Node.mapSourcesOption f no)
  | .switchStmt s discriminant cases =>
    .switchStmt s (discriminant.mapSources f) (Node.mapSourcesList f cases)
  | .switchCase s test body =>
    .switchCase s (Node.mapSourcesOption f test) (Node.mapSourcesList f body)
  | .tryStmt s body handler finalizer =>
    .tryStmt s (body.mapSources f) (Node.mapSourcesOption f handler)
      (Node.mapSourcesOption f finalizer)
  | .catchClause s param body => .catchClause s (Node.mapSourcesOption f param) (body.mapSources f)
  | .whileStmt s test body => .whileStmt s (test.mapSources f) (body.mapSources f)
  | .doWhileStmt s test body => .doWhileStmt s (test.mapSources f) (body.mapSources f)
  | .forStmt s init test step body =>
    .forStmt s (Node.mapSourcesOption f init) (Node.mapSourcesOption f test)
      (Node.mapSourcesOption f step) (body.mapSources f)
  | .forInStmt s head right body =>
    .forInStmt s (head.mapSources f) (right.mapSources f) (body.mapSources f)
  | .forOfStmt s isAwait head right body =>
    .forOfStmt s isAwait (head.mapSources f) (right.mapSources f) (body.mapSources f)
  | .importDefault s id => .importDefault s (id.mapSources f)
  | .importNamespace s id => .importNamespace s (id.mapSources f)
  | .importNamed s id imported =>
    .importNamed s (id.mapSources f) (Node.mapSourcesOption f imported)
  | .exportDecl s decl => .exportDecl s (decl.mapSources f)
  | .exportDefaultDecl s decl => .exportDefaultDecl s (decl.mapSources f)
  | .exportDefaultExpr s expr => .exportDefaultExpr s (expr.mapSources f)
  | .exportNamespace s exported => .exportNamespace s (exported.mapSources f)
  | .exportSpecifier s localName exported =>
    .exportSpecifier s (localName.mapSources f) (Node.mapSourcesOption f exported)
  | n => n

def Node.mapSourcesList (f : String → Option String) : List Node → List Node
  | [] => []
  | n :: ns => n.mapSources f :: Node.mapSourcesList f ns

def Node.mapSourcesOption (f : String → Option String) : Option Node → Option Node
  | none => none
  | some n => some (n.mapSources f)

end

def Module.mapSources (f : String → Option String) (m : Module) : Module :=
  { m with body := Node.mapSourcesList f m.body }

end Unbundled.Script
