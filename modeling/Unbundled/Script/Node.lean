/-!
Syntax trees of scripts. Patterns are read as expressions first and turned into patterns when an
`=`, `of` or `=>` shows what they are, so one type holds every production. A name that is
*referred to* is an `ident`; a name that is bound or assigned inside a pattern is a `binding`; a
property name is a `name`.
-/
namespace Unbundled.Script

/-- The octets from `lo` up to, and without, `hi`. -/
structure Span where
  lo : Nat
  hi : Nat
  deriving DecidableEq, Repr, Inhabited

/-- A span as the two ends of a range whose first position is one. -/
def Span.text (s : Span) : String := toString (s.lo + 1) ++ ".." ++ toString (s.hi + 1)

/-- A stretch of a template literal, as it is written and, if its escapes are well-formed, with
the characters that they stand for. -/
structure Quasi where
  span : Span
  raw : String
  cooked : Option String
  deriving DecidableEq, Repr, Inhabited

inductive MethodKind where
  | method
  | getter
  | setter
  deriving DecidableEq, Repr

inductive Node where
  -- names and literals
  | ident (span : Span) (text : String)
  | binding (span : Span) (text : String)
  | name (span : Span) (text : String)
  | privateName (span : Span) (text : String)
  /-- `raw` is the literal as written, when it is known. -/
  | str (span : Span) (value : String) (raw : Option String)
  /-- A number, as written. -/
  | number (span : Span) (raw : String)
  | regex (span : Span) (body : String) (flags : String)
  /-- `this`, `null`, `true`, `false` and `super`. -/
  | word (span : Span) (text : String)
  /-- `import` where it is called; `phase` is empty, `source` or `defer`. -/
  | importCallee (span : Span) (phase : String)
  | template (span : Span) (quasis : List Quasi) (exprs : List Node)
  | tagged (span : Span) (tag : Node) (quasi : Node)
  -- expressions
  | array (span : Span) (elements : List Node)
  /-- An omitted element of an array. -/
  | hole
  /-- `...` before an element, an argument or a property. -/
  | spread (span : Span) (arg : Node)
  | object (span : Span) (properties : List Node)
  | functionExpr (span : Span) (id : Option Node) (function : Node)
  | classExpr (span : Span) (id : Option Node) (superClass : Option Node) (members : List Node)
  | arrow (span : Span) (isAsync : Bool) (params : List Node) (body : Node)
  | unary (span : Span) (op : String) (arg : Node)
  | update (span : Span) (op : String) (isPrefix : Bool) (arg : Node)
  | binary (span : Span) (op : String) (left : Node) (right : Node)
  | assign (span : Span) (op : String) (target : Node) (value : Node)
  | conditional (span : Span) (test : Node) (yes : Node) (no : Node)
  | member (span : Span) (object : Node) (property : Node)
  | call (span : Span) (callee : Node) (args : List Node)
  | newExpr (span : Span) (callee : Node) (hasArgs : Bool) (args : List Node)
  | optionalMember (span : Span) (optional : Bool) (object : Node) (property : Node)
  | optionalCall (span : Span) (optional : Bool) (callee : Node) (args : List Node)
  | sequence (span : Span) (exprs : List Node)
  | paren (span : Span) (expr : Node)
  | awaitExpr (span : Span) (arg : Node)
  | yieldExpr (span : Span) (delegate : Bool) (arg : Option Node)
  /-- `new.target` and `import.meta`. -/
  | metaProperty (span : Span) (text : String)
  /-- Stands for an expression that an error has been recorded for. -/
  | invalid (span : Span)
  -- parts of objects, functions and classes
  /-- A key in brackets. -/
  | computed (span : Span) (expr : Node)
  | shorthand (span : Span) (text : String)
  /-- `a = b` among the properties of a literal: part of a pattern only. -/
  | shorthandDefault (span : Span) (key : Node) (value : Node)
  | property (span : Span) (key : Node) (value : Node)
  | getter (span : Span) (key : Node) (body : Node)
  | setter (span : Span) (key : Node) (param : Node) (body : Node)
  | method (span : Span) (key : Node) (function : Node)
  | function (span : Span) (isAsync : Bool) (isGenerator : Bool) (params : List Node) (body : Node)
  | classConstructor (span : Span) (key : Node) (params : List Node) (body : Node)
  | classMethod (span : Span) (kind : MethodKind) (isStatic : Bool) (key : Node) (function : Node)
  | field (span : Span) (isStatic : Bool) (key : Node) (value : Option Node)
  | staticBlock (span : Span) (body : Node)
  -- patterns
  | arrayPattern (span : Span) (elements : List Node)
  | objectPattern (span : Span) (properties : List Node)
  /-- A pattern with a default value. -/
  | defaulted (span : Span) (target : Node) (value : Node)
  | rest (span : Span) (target : Node)
  | propertyPattern (span : Span) (key : Node) (target : Node)
  /-- A property whose key is the name it binds. -/
  | shorthandPattern (span : Span) (target : Node) (value : Option Node)
  -- statements
  | block (span : Span) (body : List Node)
  | emptyStmt (span : Span)
  | debuggerStmt (span : Span)
  | exprStmt (span : Span) (expr : Node)
  | varDecl (span : Span) (kind : String) (declarators : List Node)
  | declarator (span : Span) (target : Node) (init : Option Node)
  | functionDecl (span : Span) (id : Node) (function : Node)
  | classDecl (span : Span) (id : Node) (superClass : Option Node) (members : List Node)
  | returnStmt (span : Span) (arg : Option Node)
  | throwStmt (span : Span) (arg : Node)
  | labeledStmt (span : Span) (label : Node) (body : Node)
  | breakStmt (span : Span) (label : Option Node)
  | continueStmt (span : Span) (label : Option Node)
  | ifStmt (span : Span) (test : Node) (yes : Node) (no : Option Node)
  | switchStmt (span : Span) (discriminant : Node) (cases : List Node)
  | switchCase (span : Span) (test : Option Node) (body : List Node)
  | tryStmt (span : Span) (body : Node) (handler : Option Node) (finalizer : Option Node)
  | catchClause (span : Span) (param : Option Node) (body : Node)
  | whileStmt (span : Span) (test : Node) (body : Node)
  | doWhileStmt (span : Span) (test : Node) (body : Node)
  | forStmt (span : Span) (init test step : Option Node) (body : Node)
  | forInStmt (span : Span) (head : Node) (right : Node) (body : Node)
  | forOfStmt (span : Span) (isAwait : Bool) (head : Node) (right : Node) (body : Node)
  -- imports and exports
  /-- `phase` is the word before the specifiers: empty, `source` or `defer`. -/
  | importDecl (span : Span) (phase : String) (specifiers : List Node) (source : Node)
  | importDefault (span : Span) (id : Node)
  | importNamespace (span : Span) (id : Node)
  | importNamed (span : Span) (id : Node) (imported : Option Node)
  | exportDecl (span : Span) (decl : Node)
  | exportDefaultDecl (span : Span) (decl : Node)
  | exportDefaultExpr (span : Span) (expr : Node)
  | exportNamed (span : Span) (specifiers : List Node) (source : Option Node)
  | exportNamespace (span : Span) (exported : Node)
  | exportSpecifier (span : Span) (localName : Node) (exported : Option Node)
  | exportAll (span : Span) (source : Node)
  deriving Inhabited

namespace Node

def span : Node → Span
  | hole => ⟨0, 0⟩
  | ident s .. | binding s .. | name s .. | privateName s .. | str s .. | number s ..
  | regex s .. | word s .. | importCallee s .. | template s .. | tagged s .. | array s ..
  | spread s .. | object s .. | functionExpr s .. | classExpr s .. | arrow s .. | unary s ..
  | update s .. | binary s .. | assign s .. | conditional s .. | member s .. | call s ..
  | newExpr s .. | optionalMember s .. | optionalCall s .. | sequence s .. | paren s ..
  | awaitExpr s .. | yieldExpr s .. | metaProperty s .. | invalid s .. | computed s ..
  | shorthand s .. | shorthandDefault s .. | property s .. | getter s .. | setter s ..
  | method s .. | function s .. | classConstructor s .. | classMethod s .. | field s ..
  | staticBlock s .. | arrayPattern s .. | objectPattern s .. | defaulted s .. | rest s ..
  | propertyPattern s .. | shorthandPattern s .. | block s .. | emptyStmt s ..
  | debuggerStmt s .. | exprStmt s .. | varDecl s .. | declarator s .. | functionDecl s ..
  | classDecl s .. | returnStmt s .. | throwStmt s .. | labeledStmt s .. | breakStmt s ..
  | continueStmt s .. | ifStmt s .. | switchStmt s .. | switchCase s .. | tryStmt s ..
  | catchClause s .. | whileStmt s .. | doWhileStmt s .. | forStmt s .. | forInStmt s ..
  | forOfStmt s .. | importDecl s .. | importDefault s .. | importNamespace s ..
  | importNamed s .. | exportDecl s .. | exportDefaultDecl s .. | exportDefaultExpr s ..
  | exportNamed s .. | exportNamespace s .. | exportSpecifier s .. | exportAll s .. => s

def lo (n : Node) : Nat := n.span.lo

def hi (n : Node) : Nat := n.span.hi

mutual

/-- The names that a pattern binds, in order, with their places. -/
def bindings : Node → List (Span × String)
  | binding span text => [(span, text)]
  | arrayPattern _ es | objectPattern _ es => bindingsList es
  | rest _ target | defaulted _ target _ | propertyPattern _ _ target
  | shorthandPattern _ target _ => target.bindings
  | _ => []

def bindingsList : List Node → List (Span × String)
  | [] => []
  | n :: ns => n.bindings ++ bindingsList ns

end

end Node

/-- A whole script: its span, the text after `#!` on its first line, and its items. -/
structure Module where
  span : Span
  shebang : Option String
  body : List Node
  deriving Inhabited

end Unbundled.Script
