import Unbundled.Script.Node
import Unbundled.Script.Numeral
import Unbundled.Text.Literal

/-!
The outline of a tree: what a diagnostic shows of it. An outline is made of records, variants and
lists; `Node.outline` gives it for a node in the place where the node is usual, and the functions
beside it adapt it to other places.
-/
namespace Unbundled.Script

inductive Outline where
  | atom (text : String)
  | entry (name : String) (value : Outline)
  | record (name : String) (fields : List Outline)
  | variant (name : String) (value : Outline)
  | list (items : List Outline)

namespace Outline

mutual

def text : Outline → String
  | atom s => s
  | entry name value => name ++ ": " ++ value.text
  | record name fields => name ++ " \x7b " ++ ", ".intercalate (texts fields) ++ " \x7d"
  | variant name value => name ++ "(" ++ value.text ++ ")"
  | list items => "[" ++ ", ".intercalate (texts items) ++ "]"

def texts : List Outline → List String
  | [] => []
  | o :: os => o.text :: texts os

end

def quoted (s : String) : Outline := atom (Text.stringLiteral s)

def flag (b : Bool) : Outline := atom (if b then "true" else "false")

def absent : Outline := atom "None"

def option : Option Outline → Outline
  | none => absent
  | some o => variant "Some" o

/-- Fields that are the same in every script. -/
def absents (names : List String) : List Outline := names.map fun name => entry name absent

def nos (names : List String) : List Outline := names.map fun name => entry name (flag false)

/-- A record that begins with its place. -/
def located (name : String) (span : Span) (fields : List Outline) : Outline :=
  record name (entry "span" (atom span.text) :: fields)

def context : Outline := entry "ctxt" (atom "#0")

/-- What a variant holds. -/
def inner : Outline → Outline
  | variant _ o => o
  | o => o

def ident (span : Span) (name : String) : Outline :=
  located "Ident" span [context, entry "sym" (quoted name), entry "optional" (flag false)]

def bindingIdent (span : Span) (name : String) : Outline :=
  record "BindingIdent" [entry "id" (ident span name), entry "type_ann" absent]

def quasi (isTail : Bool) (q : Quasi) : Outline :=
  located "TplElement" q.span
    [entry "tail" (flag isTail), entry "cooked" (option (q.cooked.map quoted)),
      entry "raw" (quoted q.raw)]

def quasis : List Quasi → List Outline
  | [] => []
  | [q] => [quasi true q]
  | q :: qs => quasi false q :: quasis qs

def invalid (span : Span) : Outline := variant "Invalid" (located "Invalid" span [])

end Outline

open Outline

def MethodKind.outline : MethodKind → Outline
  | method => quoted "method"
  | getter => quoted "getter"
  | setter => quoted "setter"

/-- A word that is not a name. -/
def Node.wordOutline (span : Span) (word : String) : Outline :=
  if word = "this" then variant "This" (located "ThisExpr" span [])
  else if word = "super" then variant "Super" (located "Super" span [])
  else if word = "null" then variant "Lit" (variant "Null" (located "Null" span []))
  else variant "Lit" (variant "Bool" (located "Bool" span [entry "value" (atom word)]))

def Node.numberOutline (span : Span) (raw : String) : Outline :=
  let number := fun (kind value : String) =>
    located kind span [entry "value" (atom value), entry "raw" (variant "Some" (quoted raw))]
  if raw.endsWith "n" then variant "BigInt" (number "BigInt" (Numeral.bigValueText raw))
  else variant "Num" (number "Number" (Numeral.pointText raw))

/-- The outline `o` of `n` where it is the key of a property. -/
def Node.asKey (n : Node) (o : Outline) : Outline :=
  match n with
  | .str .. | .number .. => o.inner
  | _ => o

/-- The outline `o` of `n` where it is called. -/
def Node.asCallee (n : Node) (o : Outline) : Outline :=
  match n with
  | .word _ "super" | .importCallee .. => o
  | _ => variant "Expr" o

/-- The outline `o` of `n` where it is assigned to. -/
def Node.asTarget (n : Node) (o : Outline) : Outline :=
  match n with
  | .arrayPattern .. | .objectPattern .. => variant "Pat" o
  | .ident s text => variant "Simple" (variant "Ident" (bindingIdent s text))
  | _ => variant "Simple" o

/-- The outline `o` of `n` where it is a pattern. -/
def Node.asPattern (n : Node) (o : Outline) : Outline :=
  match n with
  | .binding .. | .arrayPattern .. | .objectPattern .. | .defaulted .. | .rest .. | .invalid .. => o
  | _ => variant "Expr" o

/-- The outline `o` of `n` where it is an element of an array or an argument. -/
def Node.asElement (n : Node) (o : Outline) : Outline :=
  let element := fun (spread : Outline) =>
    record "ExprOrSpread" [entry "spread" spread, entry "expr" o]
  match n with
  | .spread s _ => element (variant "Some" (atom (Span.text ⟨s.lo, s.lo + 3⟩)))
  | _ => element absent

/-- The outline `o` of `n` where it is a property of a literal. -/
def Node.asProperty (n : Node) (o : Outline) : Outline :=
  match n with
  | .spread s _ =>
    variant "Spread" (record "SpreadElement"
      [entry "dot3_token" (atom (Span.text ⟨s.lo, s.lo + 3⟩)), entry "expr" o])
  | _ => variant "Prop" o

/-- The outline `o` of `n` where it is a parameter. -/
def Node.asParameter (n : Node) (o : Outline) : Outline :=
  located "Param" n.span [entry "decorators" (list []), entry "pat" o]

/-- The outline `o` of `n` where it is the head of a loop over values. -/
def Node.asHead (n : Node) (o : Outline) : Outline :=
  match n with
  | .varDecl .. => variant "VarDecl" o.inner.inner
  | _ => variant "Pat" (n.asPattern o)

/-- The outline `o` of `n` where it begins a loop. -/
def Node.asInit (n : Node) (o : Outline) : Outline :=
  match n with
  | .varDecl .. => variant "VarDecl" o.inner.inner
  | _ => variant "Expr" o

/-- The outline `o` of `n` where it is the body of an arrow function. -/
def Node.asBody (n : Node) (o : Outline) : Outline :=
  match n with
  | .block .. => variant "BlockStmt" o.inner
  | _ => variant "Expr" o

/-- A name in a place where only names stand. -/
def Node.nameOutline : Node → Outline
  | .ident s text | .binding s text | .name s text => Outline.ident s text
  | n => located "Invalid" n.span []

def Node.restOutline (span : Span) (target : Outline) : Outline :=
  located "RestPat" span
    [entry "dot3_token" (atom (Span.text ⟨span.lo, span.lo + 3⟩)), entry "arg" target,
      entry "type_ann" absent]

def Node.classOutline (span : Span) (superClass : Outline) (members : List Outline) : Outline :=
  located "Class" span
    ([context, entry "decorators" (list []), entry "body" (list members),
      entry "super_class" superClass, entry "is_abstract" (flag false)]
      ++ absents ["type_params", "super_type_params"] ++ [entry "implements" (list [])])

/-- A call, without what is called and its arguments. -/
def Node.callOutline (kind : String) (span : Span) (callee : Outline) (args : List Outline) :
    Outline :=
  located kind span
    [context, entry "callee" callee, entry "args" (list args), entry "type_args" absent]

mutual

/-- The outline of an expression, a pattern or a statement. -/
def Node.outline : Node → Outline
  | .hole => absent
  | .ident s text => variant "Ident" (Outline.ident s text)
  | .binding s text => variant "Ident" (bindingIdent s text)
  | .name s text => variant "Ident" (located "IdentName" s [entry "sym" (quoted text)])
  | .privateName s text =>
    variant "PrivateName" (located "PrivateName" s [entry "name" (quoted text)])
  | .str s value raw =>
    variant "Lit" (variant "Str" (located "Str" s
      [entry "value" (quoted value), entry "raw" (option (raw.map quoted))]))
  | .number s raw => variant "Lit" (numberOutline s raw)
  | .regex s body flags =>
    variant "Lit" (variant "Regex" (located "Regex" s
      [entry "exp" (quoted body), entry "flags" (quoted flags)]))
  | .word s text => wordOutline s text
  | .importCallee s phase =>
    variant "Import" (located "Import" s
      [entry "phase" (quoted (if phase.isEmpty then "evaluation" else phase))])
  | .template s qs exprs =>
    variant "Tpl" (located "Tpl" s
      [entry "exprs" (list (outlines exprs)), entry "quasis" (list (quasis qs))])
  | .tagged s tag quasi =>
    variant "TaggedTpl" (located "TaggedTpl" s
      [context, entry "tag" tag.outline, entry "type_params" absent,
        entry "tpl" quasi.outline.inner])
  | .array s elements =>
    variant "Array" (located "ArrayLit" s [entry "elems" (list (optionalElements elements))])
  | .spread _ arg => arg.outline
  | .object s properties =>
    variant "Object" (located "ObjectLit" s [entry "props" (list (propertyOutlines properties))])
  | .functionExpr _ id fn =>
    variant "Fn" (record "FnExpr"
      [entry "ident" (option (id.map nameOutline)), entry "function" fn.outline])
  | .classExpr s id superClass members =>
    variant "Class" (record "ClassExpr"
      [entry "ident" (option (id.map nameOutline)),
        entry "class" (classOutline s (optionOutline superClass) (outlines members))])
  | .arrow s isAsync params body =>
    variant "Arrow" (located "ArrowExpr" s
      ([context, entry "params" (list (patternOutlines params)),
        entry "body" (body.asBody body.outline), entry "is_async" (flag isAsync),
        entry "is_generator" (flag false)] ++ absents ["type_params", "return_type"]))
  | .unary s op arg =>
    variant "Unary" (located "UnaryExpr" s [entry "op" (quoted op), entry "arg" arg.outline])
  | .update s op isPrefix arg =>
    variant "Update" (located "UpdateExpr" s
      [entry "op" (quoted op), entry "prefix" (flag isPrefix), entry "arg" arg.outline])
  | .binary s op left right =>
    variant "Bin" (located "BinExpr" s
      [entry "op" (quoted op), entry "left" left.outline, entry "right" right.outline])
  | .assign s op target value =>
    variant "Assign" (located "AssignExpr" s
      [entry "op" (quoted op), entry "left" (target.asTarget target.outline),
        entry "right" value.outline])
  | .conditional s test yes no =>
    variant "Cond" (located "CondExpr" s
      [entry "test" test.outline, entry "cons" yes.outline, entry "alt" no.outline])
  | .member s owner key =>
    match owner with
    | .word s' "super" =>
      variant "SuperProp" (located "SuperPropExpr" s
        [entry "obj" (located "Super" s' []), entry "prop" key.outline])
    | _ =>
      variant "Member" (located "MemberExpr" s
        [entry "obj" owner.outline, entry "prop" key.outline])
  | .call s callee args =>
    variant "Call" (callOutline "CallExpr" s (callee.asCallee callee.outline)
      (elementOutlines args))
  | .newExpr s callee hasArgs args =>
    variant "New" (located "NewExpr" s
      [context, entry "callee" callee.outline,
        entry "args" (if hasArgs then variant "Some" (list (elementOutlines args)) else absent),
        entry "type_args" absent])
  | .optionalMember s optional owner key =>
    variant "OptChain" (located "OptChainExpr" s
      [entry "optional" (flag optional),
        entry "base" (variant "Member" (located "MemberExpr" s
          [entry "obj" owner.outline, entry "prop" key.outline]))])
  | .optionalCall s optional callee args =>
    variant "OptChain" (located "OptChainExpr" s
      [entry "optional" (flag optional),
        entry "base" (variant "Call" (callOutline "OptCall" s callee.outline
          (elementOutlines args)))])
  | .sequence s exprs => variant "Seq" (located "SeqExpr" s [entry "exprs" (list (outlines exprs))])
  | .paren s e => variant "Paren" (located "ParenExpr" s [entry "expr" e.outline])
  | .awaitExpr s arg => variant "Await" (located "AwaitExpr" s [entry "arg" arg.outline])
  | .yieldExpr s delegate arg =>
    variant "Yield" (located "YieldExpr" s
      [entry "arg" (optionOutline arg), entry "delegate" (flag delegate)])
  | .metaProperty s text =>
    variant "MetaProp" (located "MetaPropExpr" s [entry "kind" (quoted text)])
  | .invalid s => Outline.invalid s
  | .computed s e => variant "Computed" (located "ComputedPropName" s [entry "expr" e.outline])
  | .shorthand s text => variant "Shorthand" (Outline.ident s text)
  | .shorthandDefault s key value =>
    variant "Assign" (located "AssignProp" s
      [entry "key" key.nameOutline, entry "value" value.outline])
  | .property _ key value =>
    variant "KeyValue" (record "KeyValueProp"
      [entry "key" (key.asKey key.outline), entry "value" value.outline])
  | .getter s key body =>
    variant "Getter" (located "GetterProp" s
      [entry "key" (key.asKey key.outline), entry "type_ann" absent,
        entry "body" (variant "Some" body.outline.inner)])
  | .setter s key param body =>
    variant "Setter" (located "SetterProp" s
      [entry "key" (key.asKey key.outline), entry "this_param" absent,
        entry "param" param.outline, entry "body" (variant "Some" body.outline.inner)])
  | .method _ key fn =>
    variant "Method" (record "MethodProp"
      [entry "key" (key.asKey key.outline), entry "function" fn.outline])
  | .function s isAsync isGenerator params body =>
    record "Function"
      ([entry "params" (list (parameterOutlines params)), entry "decorators" (list []),
        entry "span" (atom s.text), context, entry "body" (variant "Some" body.outline.inner),
        entry "is_generator" (flag isGenerator), entry "is_async" (flag isAsync)]
        ++ absents ["type_params", "return_type"])
  | .classConstructor s key params body =>
    variant "Constructor" (located "Constructor" s
      [context, entry "key" (key.asKey key.outline),
        entry "params" (list ((parameterOutlines params).map (variant "Param"))),
        entry "body" (variant "Some" body.outline.inner), entry "accessibility" absent,
        entry "is_optional" (flag false)])
  | .classMethod s kind isStatic key fn =>
    let rest :=
      [entry "function" fn.outline, entry "kind" kind.outline, entry "is_static" (flag isStatic),
        entry "accessibility" absent] ++ nos ["is_abstract", "is_optional", "is_override"]
    match key with
    | .privateName .. =>
      variant "PrivateMethod" (located "PrivateMethod" s (entry "key" key.outline.inner :: rest))
    | _ =>
      variant "Method" (located "ClassMethod" s (entry "key" (key.asKey key.outline) :: rest))
  | .field s isStatic key value =>
    let common :=
      [entry "value" (optionOutline value), entry "type_ann" absent,
        entry "is_static" (flag isStatic), entry "decorators" (list []),
        entry "accessibility" absent]
    match key with
    | .privateName .. =>
      variant "PrivateProp" (located "PrivateProp" s
        ([context, entry "key" key.outline.inner] ++ common
          ++ nos ["is_optional", "is_override", "readonly", "definite"]))
    | _ =>
      variant "ClassProp" (located "ClassProp" s
        (entry "key" (key.asKey key.outline) :: common
          ++ nos ["is_abstract", "is_optional", "is_override", "readonly", "declare",
            "definite"]))
  | .staticBlock s body =>
    variant "StaticBlock" (located "StaticBlock" s [entry "body" body.outline.inner])
  | .arrayPattern s elements =>
    variant "Array" (located "ArrayPat" s
      [entry "elems" (list (optionalPatterns elements)), entry "optional" (flag false),
        entry "type_ann" absent])
  | .objectPattern s properties =>
    variant "Object" (located "ObjectPat" s
      [entry "props" (list (outlines properties)), entry "optional" (flag false),
        entry "type_ann" absent])
  | .defaulted s target value =>
    variant "Assign" (located "AssignPat" s
      [entry "left" (target.asPattern target.outline), entry "right" value.outline])
  | .rest s target => variant "Rest" (restOutline s (target.asPattern target.outline))
  | .propertyPattern _ key target =>
    variant "KeyValue" (record "KeyValuePatProp"
      [entry "key" (key.asKey key.outline), entry "value" (target.asPattern target.outline)])
  | .shorthandPattern s target value =>
    variant "Assign" (located "AssignPatProp" s
      [entry "key" target.outline.inner, entry "value" (optionOutline value)])
  | .block s body =>
    variant "Block" (located "BlockStmt" s [context, entry "stmts" (list (outlines body))])
  | .emptyStmt s => variant "Empty" (located "EmptyStmt" s [])
  | .debuggerStmt s => variant "Debugger" (located "DebuggerStmt" s [])
  | .exprStmt s e => variant "Expr" (located "ExprStmt" s [entry "expr" e.outline])
  | .varDecl s kind declarators =>
    variant "Decl" (variant "Var" (located "VarDecl" s
      [context, entry "kind" (quoted kind), entry "declare" (flag false),
        entry "decls" (list (outlines declarators))]))
  | .declarator s target init =>
    located "VarDeclarator" s
      [entry "name" target.outline, entry "init" (optionOutline init),
        entry "definite" (flag false)]
  | .functionDecl _ id fn =>
    variant "Decl" (variant "Fn" (record "FnDecl"
      [entry "ident" id.nameOutline, entry "declare" (flag false),
        entry "function" fn.outline]))
  | .classDecl s id superClass members =>
    variant "Decl" (variant "Class" (record "ClassDecl"
      [entry "ident" id.nameOutline, entry "declare" (flag false),
        entry "class" (classOutline s (optionOutline superClass) (outlines members))]))
  | .returnStmt s arg => variant "Return" (located "ReturnStmt" s [entry "arg" (optionOutline arg)])
  | .throwStmt s arg => variant "Throw" (located "ThrowStmt" s [entry "arg" arg.outline])
  | .labeledStmt s label body =>
    variant "Labeled" (located "LabeledStmt" s
      [entry "label" label.nameOutline, entry "body" body.outline])
  | .breakStmt s label =>
    variant "Break" (located "BreakStmt" s [entry "label" (option (label.map nameOutline))])
  | .continueStmt s label =>
    variant "Continue" (located "ContinueStmt" s [entry "label" (option (label.map nameOutline))])
  | .ifStmt s test yes no =>
    variant "If" (located "IfStmt" s
      [entry "test" test.outline, entry "cons" yes.outline, entry "alt" (optionOutline no)])
  | .switchStmt s discriminant cases =>
    variant "Switch" (located "SwitchStmt" s
      [entry "discriminant" discriminant.outline, entry "cases" (list (outlines cases))])
  | .switchCase s test body =>
    located "SwitchCase" s [entry "test" (optionOutline test), entry "cons" (list (outlines body))]
  | .tryStmt s body handler finalizer =>
    variant "Try" (located "TryStmt" s
      [entry "block" body.outline.inner, entry "handler" (optionOutline handler),
        entry "finalizer" (optionInner finalizer)])
  | .catchClause s param body =>
    located "CatchClause" s
      [entry "param" (optionOutline param), entry "body" body.outline.inner]
  | .whileStmt s test body =>
    variant "While" (located "WhileStmt" s [entry "test" test.outline, entry "body" body.outline])
  | .doWhileStmt s test body =>
    variant "DoWhile" (located "DoWhileStmt" s
      [entry "test" test.outline, entry "body" body.outline])
  | .forStmt s init test step body =>
    variant "For" (located "ForStmt" s
      [entry "init" (initOutline init), entry "test" (optionOutline test),
        entry "update" (optionOutline step), entry "body" body.outline])
  | .forInStmt s head right body =>
    variant "ForIn" (located "ForInStmt" s
      [entry "left" (head.asHead head.outline), entry "right" right.outline,
        entry "body" body.outline])
  | .forOfStmt s isAwait head right body =>
    variant "ForOf" (located "ForOfStmt" s
      [entry "is_await" (flag isAwait), entry "left" (head.asHead head.outline),
        entry "right" right.outline, entry "body" body.outline])
  | .importDecl s .. | .importDefault s .. | .importNamespace s .. | .importNamed s ..
  | .exportDecl s .. | .exportDefaultDecl s .. | .exportDefaultExpr s .. | .exportNamed s ..
  | .exportNamespace s .. | .exportSpecifier s .. | .exportAll s .. => Outline.invalid s

def Node.outlines : List Node → List Outline
  | [] => []
  | n :: ns => n.outline :: outlines ns

def Node.optionOutline : Option Node → Outline
  | none => absent
  | some n => variant "Some" n.outline

def Node.optionInner : Option Node → Outline
  | none => absent
  | some n => variant "Some" n.outline.inner

def Node.initOutline : Option Node → Outline
  | none => absent
  | some n => variant "Some" (n.asInit n.outline)

def Node.elementOutlines : List Node → List Outline
  | [] => []
  | n :: ns => n.asElement n.outline :: elementOutlines ns

/-- Elements of an array, some of which are left out. -/
def Node.optionalElements : List Node → List Outline
  | [] => []
  | .hole :: ns => absent :: optionalElements ns
  | n :: ns => variant "Some" (n.asElement n.outline) :: optionalElements ns

def Node.optionalPatterns : List Node → List Outline
  | [] => []
  | .hole :: ns => absent :: optionalPatterns ns
  | n :: ns => variant "Some" (n.asPattern n.outline) :: optionalPatterns ns

def Node.propertyOutlines : List Node → List Outline
  | [] => []
  | n :: ns => n.asProperty n.outline :: propertyOutlines ns

def Node.patternOutlines : List Node → List Outline
  | [] => []
  | n :: ns => n.asPattern n.outline :: patternOutlines ns

def Node.parameterOutlines : List Node → List Outline
  | [] => []
  | n :: ns => n.asParameter n.outline :: parameterOutlines ns

end

end Unbundled.Script
