import Unbundled.Script.Writer
import Unbundled.Text.LineEnd

/-!
Writing a tree back as text: four blanks for a level, one statement a line, literals and
parentheses as they were. A node is printed by `Node.print`; what its place adds is said by
`placed`: the comments around it and, behind a statement, the end of the line.
-/
namespace Unbundled.Script

open Print

/-- How the members of a list are laid out. -/
structure ListStyle where
  /-- One member a line, a level deeper. -/
  lines : Bool
  commas : Bool
  /-- Blanks inside the braces, when there are members. -/
  spaced : Bool := false

namespace ListStyle

def literal : ListStyle := ⟨true, true, false⟩

def sequence : ListStyle := ⟨false, true, false⟩

def braced : ListStyle := ⟨false, true, true⟩

def statements : ListStyle := ⟨true, false, false⟩

end ListStyle

/-- What stands behind a node where it is an operand, a pattern or a statement. -/
def Node.finish (n : Node) : Print Unit :=
  match n with
  | .hole | .name .. | .privateName .. | .importCallee .. | .word _ "super" | .spread ..
  | .computed .. | .shorthand .. | .shorthandDefault .. | .property .. | .getter .. | .setter ..
  | .method .. | .function .. | .classConstructor .. | .classMethod .. | .field ..
  | .staticBlock .. | .propertyPattern .. | .shorthandPattern .. | .block .. | .declarator ..
  | .switchCase .. | .catchClause .. | .importDefault .. | .importNamespace .. | .importNamed ..
  | .exportNamespace .. | .exportSpecifier .. => pure ()
  | .varDecl .. => do
    put ";"
    trailing n.hi
    newLine
  | .emptyStmt .. | .debuggerStmt .. | .exprStmt .. | .functionDecl .. | .classDecl ..
  | .returnStmt .. | .throwStmt .. | .labeledStmt .. | .breakStmt .. | .continueStmt ..
  | .ifStmt .. | .switchStmt .. | .tryStmt .. | .whileStmt .. | .doWhileStmt .. | .forStmt ..
  | .forInStmt .. | .forOfStmt .. | .importDecl .. | .exportDecl .. | .exportDefaultDecl ..
  | .exportDefaultExpr .. | .exportNamed .. | .exportAll .. => do
    trailing n.hi
    newLine
  | _ => trailing n.hi

/-- A node in a place that adds nothing behind it. Comments before a jump are dropped. -/
def bare (n : Node) (print : Print Unit) : Print Unit := do
  match n with
  | .breakStmt .. | .continueStmt .. => pure ()
  | _ => leading n.lo
  print

/-- A node with what its place adds. -/
def placed (n : Node) (print : Print Unit) : Print Unit := do
  bare n print
  n.finish

def isComputed : Node → Bool
  | .computed .. => true
  | _ => false

/-- Whether the literal is digits only, without a leading zero: a dot behind it is its own. -/
def takesDot (raw : String) : Bool :=
  let digits := raw.toList.filter (· != '_')
  digits.all Char.isDigit && !(digits.length ≥ 2 && digits.head? = some '0')

/-- The object of a member access, before a dot or a bracket. -/
def placedObject (n : Node) (beforeDot : Bool) (print : Print Unit) : Print Unit := do
  match n with
  | .number _ raw =>
    bare n print
    if raw.endsWith "n" then trailing n.hi
    else if beforeDot && takesDot raw then put "."
  | _ => placed n print

/-- Writes a dot before a property, behind the comments at the dot. -/
def dotBefore (property : Node) : Print Unit := do
  unless property.lo = 0 do leading (property.lo - 1)
  put "."

def startsSign (op : String) : Node → Bool
  | .update _ o true _ => op == "+" && o == "++" || op == "-" && o == "--"
  | .unary _ o _ => (op == "+" || op == "-") && o == op
  | _ => false

def putUnary (op : String) (arg : Node) : Print Unit := do
  put op
  if op == "typeof" || op == "void" || op == "delete" || startsSign op arg then put " "

def Node.isAsync : Node → Bool
  | .function _ isAsync .. => isAsync
  | _ => false

def Node.isGenerator : Node → Bool
  | .function _ _ isGenerator .. => isGenerator
  | _ => false

/-- The words and marks before the name of a method. -/
def putMethodMarks (function : Node) : Print Unit := do
  if function.isAsync then put "async "
  if function.isGenerator then put "*"

def putFunctionMarks (function : Node) : Print Unit := do
  if function.isAsync then put "async "
  put "function"
  if function.isGenerator then put "*"

/-- The text between two members of a list. -/
def ListStyle.separate (style : ListStyle) : Print Unit := do
  if style.commas then put ","
  if style.lines then newLine
  else if style.commas then put " "

/-- Everything of a list but its members. -/
def ListStyle.surround (style : ListStyle) (isEmpty : Bool) (members : Print Unit) :
    Print Unit := do
  if isEmpty then return
  if style.lines then
    newLine
    indented members
    newLine
  else
    if style.spaced then put " "
    members
    if style.spaced then put " "

/-- An opening brace and members a line each. Comments before the closing brace, which ends at
`hi`, keep it from the line of the opening one. -/
def openBrace (hi : Nat) (style : ListStyle) (isEmpty : Bool) (members : Print Unit) :
    Print Unit := do
  put "\x7b"
  if isEmpty then
    if ← hasLeading (hi - 1) then newLine
  else style.surround false members

/-- A stretch of a template with its line ends unified. -/
def Quasi.unified (q : Quasi) : String := String.ofList (Text.unifyLineEnds q.raw.toList)

mutual

/-- The text of a node, without the comments around it. -/
def Node.print : Node → Print Unit
  | .hole | .invalid .. => pure ()
  | .ident _ text | .binding _ text | .name _ text | .word _ text | .metaProperty _ text
  | .shorthand _ text | .number _ text => put text
  | .privateName _ text => put ("#" ++ text)
  | .str _ value raw => put (raw.getD (quoteLiteral value))
  | .regex _ body flags => do
    put "/"
    put body
    put "/"
    put flags
  | .importCallee _ phase => put (if phase.isEmpty then "import" else "import." ++ phase)
  | .template _ quasis exprs => do
    put "\x60"
    Node.printStretches Quasi.unified quasis exprs
    put "\x60"
  | .tagged _ tag quasi => do
    placed tag tag.print
    leading quasi.lo
    put "\x60"
    match quasi with
    | .template _ quasis exprs => Node.printStretches Quasi.raw quasis exprs
    | _ => pure ()
    put "\x60"
  | .array _ elements => do
    put "["
    ListStyle.literal.surround elements.isEmpty do
      Node.printMembers .literal true elements
      if let some .hole := elements.getLast? then put ", "
    put "]"
  | .spread _ arg => do
    put "..."
    placed arg arg.print
  | .object s properties => do
    openBrace s.hi .literal properties.isEmpty (Node.printMembers .literal true properties)
    put "\x7d"
  | .functionExpr _ id fn => do
    putFunctionMarks fn
    Node.printName id
    fn.print
  | .classExpr _ id superClass members => do
    put "class"
    Node.printName id
    Node.printParent superClass
    put " \x7b"
    newLine
    ListStyle.statements.surround members.isEmpty (Node.printMembers .statements true members)
    put "\x7d"
  | .classDecl _ id superClass members => do
    put "class "
    bare id id.print
    Node.printParent superClass
    put " \x7b"
    newLine
    ListStyle.statements.surround members.isEmpty (Node.printMembers .statements true members)
    put "\x7d"
  | .arrow _ isAsync params body => do
    if isAsync then put "async "
    put "("
    Node.printMembers .sequence true params
    put ")=>"
    match body with
    | .block .. => bare body body.print
    | _ => indented (placed body body.print)
  | .unary _ op arg => do
    putUnary op arg
    placed arg arg.print
  | .update _ op isPrefix arg => do
    if isPrefix then put op
    placed arg arg.print
    unless isPrefix do put op
  | .binary _ op left right => do
    placed left left.print
    put (" " ++ op ++ " ")
    placed right right.print
  | .assign _ op target value => do
    bare target target.print
    put (" " ++ op ++ " ")
    placed value value.print
  | .conditional _ test yes no => do
    placed test test.print
    put " ? "
    placed yes yes.print
    put " : "
    placed no no.print
  | .member _ left key => do
    placedObject left (!isComputed key) left.print
    if isComputed key then key.print
    else
      if let .word _ "super" := left then put "." else dotBefore key
      bare key key.print
  | .call _ callee args => do
    placed callee callee.print
    put "("
    Node.printMembers .sequence true args
    put ")"
  | .newExpr _ callee hasArgs args => do
    put "new "
    placed callee callee.print
    if hasArgs then
      put "("
      Node.printMembers .sequence true args
      put ")"
  | .optionalMember _ optional left key => do
    placed left left.print
    if optional then put "?."
    else unless isComputed key do put "."
    bare key key.print
  | .optionalCall _ optional callee args => do
    placed callee callee.print
    if optional then put "?."
    put "("
    Node.printMembers .sequence true args
    put ")"
  | .sequence _ exprs => Node.printSequence true exprs
  | .paren _ e => do
    put "("
    placed e e.print
    put ")"
  | .awaitExpr _ arg => do
    put "await "
    placed arg arg.print
  | .yieldExpr _ delegate arg => do
    put (if delegate then "yield*" else "yield")
    Node.printAfterBlank arg
  | .computed _ e => do
    put "["
    placed e e.print
    put "]"
  | .shorthandDefault _ key value => do
    bare key key.print
    put "="
    placed value value.print
  | .defaulted _ target value => do
    placed target target.print
    put " = "
    placed value value.print
  | .property _ key value | .propertyPattern _ key value => do
    bare key key.print
    put ": "
    placed value value.print
  | .getter _ key body => do
    put "get "
    bare key key.print
    put " () "
    bare body body.print
  | .setter _ key param body => do
    put "set "
    bare key key.print
    put " ("
    placed param param.print
    put ")"
    bare body body.print
  | .method _ key fn => do
    putMethodMarks fn
    bare key key.print
    put " "
    fn.print
  | .function _ _ _ params body => do
    put "("
    Node.printMembers .sequence true params
    put ") "
    bare body body.print
  | .classConstructor _ key params body => do
    leading key.lo
    put "constructor("
    Node.printMembers .sequence true params
    put ")"
    bare body body.print
  | .classMethod _ kind isStatic key fn => do
    leading key.lo
    if isStatic then put "static "
    match kind with
    | .method => putMethodMarks fn
    | .getter => put "get "
    | .setter => put "set "
    bare key key.print
    fn.print
  | .field _ isStatic key value => do
    leading key.lo
    if isStatic then put "static "
    bare key key.print
    Node.printValue value
    put ";"
  | .staticBlock _ body => do
    put "static"
    bare body body.print
  | .arrayPattern _ elements => do
    put "["
    Node.printMembers .sequence true elements
    put "]"
  | .objectPattern _ properties => do
    put "\x7b"
    ListStyle.braced.surround properties.isEmpty (Node.printMembers .braced true properties)
    put "\x7d"
  | .rest _ target => do
    put "..."
    placed target target.print
  | .shorthandPattern _ target value => do
    bare target target.print
    Node.printValue value
  | .block s body => do
    openBrace s.hi .statements body.isEmpty (Node.printMembers .statements true body)
    leading (s.hi - 1)
    put "\x7d"
  | .emptyStmt _ => put ";"
  | .debuggerStmt _ => put "debugger;"
  | .exprStmt _ e => do
    placed e e.print
    put ";"
  | .varDecl _ kind declarators => do
    put kind
    put " "
    Node.printMembers .sequence true declarators
  | .declarator _ target init => do
    placed target target.print
    Node.printValue init
  | .functionDecl _ id fn => do
    putFunctionMarks fn
    put " "
    bare id id.print
    fn.print
  | .returnStmt _ arg => do
    put "return"
    Node.printReturned arg
    put ";"
  | .throwStmt _ arg => do
    put "throw "
    placed arg arg.print
    put ";"
  | .labeledStmt _ label body => do
    bare label label.print
    put ": "
    placed body body.print
  | .breakStmt _ label => do
    put "break"
    Node.printName label
    put ";"
  | .continueStmt _ label => do
    put "continue"
    Node.printName label
    put ";"
  | .ifStmt _ test yes no => do
    put "if ("
    placed test test.print
    put ") "
    placed yes yes.print
    if let (.block .., some _) := (yes, no) then put " "
    Node.printElse no
  | .switchStmt _ discriminant cases => do
    put "switch("
    placed discriminant discriminant.print
    put ")\x7b"
    newLine
    ListStyle.statements.surround cases.isEmpty (Node.printMembers .statements true cases)
    put "\x7d"
  | .switchCase _ test body => do
    Node.printTest test
    put ":"
    unless body.isEmpty do
      newLine
      indented (Node.printMembers .statements true body)
  | .tryStmt _ body handler finalizer => do
    put "try "
    bare body body.print
    Node.printHandler handler
    Node.printFinalizer finalizer
  | .catchClause _ param body => do
    put "catch "
    Node.printParam param
    put " "
    bare body body.print
  | .whileStmt _ test body => do
    put "while("
    placed test test.print
    put ")"
    placed body body.print
  | .doWhileStmt _ test body => do
    put "do "
    placed body body.print
    put "while ("
    placed test test.print
    put ")"
  | .forStmt _ init test step body => do
    put "for("
    Node.printInit init
    put ";"
    Node.printAfterBlank test
    put ";"
    Node.printAfterBlank step
    put ")"
    placed body body.print
  | .forInStmt _ head right body => do
    put "for("
    (match head with
      | .varDecl .. => bare head head.print
      | _ => placed head head.print)
    put " in "
    placed right right.print
    put ")"
    placed body body.print
  | .forOfStmt _ isAwait head right body => do
    put (if isAwait then "for await (" else "for (")
    (match head with
      | .varDecl .. => bare head head.print
      | _ => placed head head.print)
    put " of "
    placed right right.print
    put ")"
    placed body body.print
  | .importDecl _ phase specifiers source => do
    put "import "
    unless phase.isEmpty do put (phase ++ " ")
    Node.printImports false specifiers
    bare source source.print
    put ";"
  | .importDefault _ id => bare id id.print
  | .importNamespace _ id => do
    put "* as "
    bare id id.print
  | .importNamed _ id imported => do
    Node.printRenamed imported
    bare id id.print
  | .exportDecl _ decl => do
    put "export "
    bare decl decl.print
    if let .varDecl .. := decl then put ";"
  | .exportDefaultDecl _ decl => do
    put "export default "
    bare decl decl.print
  | .exportDefaultExpr _ e => do
    put "export default "
    placed e e.print
    put ";"
  | .exportNamed _ specifiers source => do
    put "export "
    (match specifiers with
      | [.exportNamespace ..] => Node.printSequence true specifiers
      | _ => do
        put "\x7b "
        Node.printMembers .sequence true specifiers
        unless specifiers.isEmpty do put " "
        put "\x7d")
    Node.printSource source
    put ";"
  | .exportNamespace _ exported => do
    put "* as "
    bare exported exported.print
  | .exportSpecifier _ localName exported => do
    bare localName localName.print
    Node.printExported exported
  | .exportAll _ source => do
    put "export * from "
    bare source source.print
    put ";"

/-- The members of a list, with what separates them and, before it, the comments that are left
behind a member. -/
def Node.printMembers (style : ListStyle) (first : Bool) : List Node → Print Unit
  | [] => pure ()
  | n :: ns => do
    unless first do style.separate
    match n with
    | .hole => pure ()
    | _ => do
      placed n n.print
      if style.commas then following false n.hi
    Node.printMembers style false ns

def Node.printSequence (first : Bool) : List Node → Print Unit
  | [] => pure ()
  | e :: es => do
    unless first do put ", "
    placed e e.print
    Node.printSequence false es

/-- The stretches of a template and, between them, its expressions. -/
def Node.printStretches (text : Quasi → String) (quasis : List Quasi) : List Node → Print Unit
  | [] => quasis.head?.forM (put ∘ text)
  | e :: es => do
    quasis.head?.forM (put ∘ text)
    put "$\x7b"
    placed e e.print
    put "\x7d"
    Node.printStretches text quasis.tail es

/-- A name behind a blank. -/
def Node.printName : Option Node → Print Unit
  | none => pure ()
  | some id => do
    put " "
    bare id id.print

def Node.printParent : Option Node → Print Unit
  | none => pure ()
  | some e => do
    put " extends "
    placed e e.print

def Node.printValue : Option Node → Print Unit
  | none => pure ()
  | some e => do
    put " = "
    placed e e.print

/-- What is returned. Parentheses keep it behind its word when comments stand between. -/
def Node.printReturned : Option Node → Print Unit
  | none => pure ()
  | some e => do
    let isApart ← hasLeading e.lo
    put (if isApart then "(" else " ")
    placed e e.print
    if isApart then put ")"

def Node.printElse : Option Node → Print Unit
  | none => pure ()
  | some s => do
    put "else "
    placed s s.print

def Node.printTest : Option Node → Print Unit
  | none => put "default"
  | some e => do
    put "case "
    placed e e.print

def Node.printHandler : Option Node → Print Unit
  | none => pure ()
  | some c => do
    put " "
    bare c c.print

def Node.printFinalizer : Option Node → Print Unit
  | none => pure ()
  | some b => do
    put " finally"
    bare b b.print

def Node.printParam : Option Node → Print Unit
  | none => pure ()
  | some p => do
    put "("
    placed p p.print
    put ")"

def Node.printInit : Option Node → Print Unit
  | none => pure ()
  | some n =>
    match n with
    | .varDecl .. => bare n n.print
    | _ => placed n n.print

def Node.printAfterBlank : Option Node → Print Unit
  | none => pure ()
  | some e => do
    put " "
    placed e e.print

/-- The name by which something is imported, where it differs. -/
def Node.printRenamed : Option Node → Print Unit
  | none => pure ()
  | some e => do
    bare e e.print
    put " as "

def Node.printExported : Option Node → Print Unit
  | none => pure ()
  | some e => do
    put " as "
    bare e e.print

def Node.printSource : Option Node → Print Unit
  | none => pure ()
  | some e => do
    put " from "
    bare e e.print

/-- The specifiers of an import and `from`. `inBraces` holds behind the opening brace. -/
def Node.printImports (inBraces : Bool) : List Node → Print Unit
  | [] => if inBraces then put " \x7d from " else pure ()
  | n :: ns => do
    let last := ns.isEmpty
    match n with
    | .importNamed .. =>
      put (if inBraces then ", " else "\x7b ")
      bare n n.print
      following false n.hi
      Node.printImports true ns
    | _ =>
      bare n n.print
      put (if last then " from " else ", ")
      Node.printImports false ns

end

def printItems : List Node → Print Unit
  | [] => pure ()
  | n :: ns => do
    placed n n.print
    trailing n.hi
    printItems ns

def Module.print (m : Module) : Print Unit := do
  leading m.span.lo
  if let some text := m.shebang then
    put ("#!" ++ text)
    newLine
  printItems m.body
  trailing m.span.hi

/-- The text of a script. -/
def Module.text (m : Module) (comments : Comments) : String :=
  (m.print.run { comments := comments }).2.text

end Unbundled.Script
