import Unbundled.Failure
import Unbundled.Script.Source
import Unbundled.Text.Split

/-!
The default export of a component's script becomes a constant, so that the render function can be
attached to it. The change is made in the text of the script: nothing else in it moves.
-/
namespace Unbundled.Component

/-- The constant that holds the options of a component. -/
def scriptBinding : String := "__script"

/-- Appends the constant on a line of its own. -/
def withBinding (code : String) (value : String) : String :=
  let line := if code.isEmpty || code.endsWith "\n" then code else code ++ "\n"
  line ++ "const " ++ scriptBinding ++ " = " ++ value ++ "\n"

/-- Where a default export begins, and the name of what it declares. -/
structure DefaultExport where
  offset : Nat
  name? : Option String
  deriving DecidableEq, Repr

/-- The name that a node binds or exports. -/
def nameOf? : Script.Node → Option String
  | .binding _ text | .name _ text => some text
  | .str _ value _ => some value
  | _ => none

def DefaultExport.ofItem? : Script.Node → Option DefaultExport
  | .exportDefaultExpr span _ => some ⟨span.lo, none⟩
  | .exportDefaultDecl span (.classExpr _ id _ _) => some ⟨span.lo, id.bind nameOf?⟩
  | .exportDefaultDecl span (.functionExpr _ id _) => some ⟨span.lo, id.bind nameOf?⟩
  | .exportDefaultDecl span _ => some ⟨span.lo, none⟩
  | _ => none

/-- Whether a specifier exports something as `default`. -/
def specifiesDefault : Script.Node → Bool
  | .exportSpecifier _ localName exported => nameOf? (exported.getD localName) == some "default"
  | _ => false

def listsDefault : Script.Node → Bool
  | .exportNamed _ specifiers _ => specifiers.any specifiesDefault
  | _ => false

/-- Why the default export of a script cannot be bound. -/
inductive BindingError where
  | listed
  | notLocated
  /-- The place where it is looked for is inside of a character. -/
  | insideCharacter
  deriving DecidableEq, Repr

/-- The work of making a module of the component at `path`. -/
def activity (path : String) : String := "compiling " ++ path

/-- What a component whose script cannot be bound is answered with. Two of the errors are those of
the script; a text that is cut inside of a character breaks the work off. -/
def BindingError.failure (path : String) : BindingError → Failure
  | listed => .parse path
      ("\x60export \x7b ... as default \x7d\x60 is not supported in components; "
        ++ "use \x60export default\x60")
  | notLocated => .parse path "could not locate \x60export default\x60"
  | insideCharacter => .io ⟨activity path⟩ .panicked

/-- The text behind `export default`, when it begins with the two words and nothing but white space
between them. -/
def dropWords? (cs : List Char) : Option (List Char) := do
  let rest ← Text.dropPrefix? ['e', 'x', 'p', 'o', 'r', 't'] cs
  Text.dropPrefix? ['d', 'e', 'f', 'a', 'u', 'l', 't'] (rest.dropWhile Text.isBlank)

/-- The text before `export default` and the text behind it, when the two words stand at the
place. -/
def cutDefault (offset : Nat) (cs : List Char) : Except BindingError (List Char × List Char) :=
  match Utf8.splitAt? offset cs with
  | none => .error .insideCharacter
  | some (before, rest) =>
    match dropWords? rest with
    | none => .error .notLocated
    | some rest => .ok (before, rest)

/-- The script with its last default export bound. What has a name stays declared under it; a
script without a default export gets an empty object. -/
def bindDefault (body : List Script.Node) (code : String) : Except BindingError String :=
  if body.any listsDefault then .error .listed
  else
    match (body.filterMap DefaultExport.ofItem?).getLast? with
    | none => .ok (withBinding code "\x7b\x7d")
    | some e =>
      match cutDefault e.offset code.toList with
      | .error error => .error error
      | .ok (before, rest) =>
        match e.name? with
        | some name =>
          .ok (withBinding (String.ofList (before ++ rest.dropWhile Text.isBlank)) name)
        | none =>
          .ok (String.ofList before ++ "const " ++ scriptBinding ++ " =" ++ String.ofList rest)

/-- The script of a component with its default export bound. Errors name the component by `file`. -/
def boundScript (file code : String) : Except Failure String :=
  match Script.parseModule file code with
  | .error d => .error (.parse file d.display)
  | .ok parsed =>
    match bindDefault parsed.module.body code with
    | .ok text => .ok text
    | .error e => .error (e.failure file)

end Unbundled.Component
