import Unbundled.Text.Split
import Unbundled.Text.UpperCase

/-!
Shapes of directive values and of names. They are recognised in the text alone, with ASCII letters,
digits and blanks.
-/
namespace Unbundled.Template

def isWordChar (c : Char) : Bool := c.isAlphanum || c = '_'

def isNameStart (c : Char) : Bool := c.isAlpha || c = '_' || c = '$'

def isNamePart (c : Char) : Bool := isWordChar c || c = '$'

/-- What follows the name at the start of the text. -/
def dropName? : List Char → Option (List Char)
  | [] => none
  | c :: cs => if isNameStart c then some (cs.dropWhile isNamePart) else none

def isIdentifier (s : String) : Bool := dropName? s.toList == some []

/-- What follows the index in brackets at the start of the text: a quoted text, digits or a
name. -/
def dropIndex? : List Char → Option (List Char)
  | [] => none
  | c :: cs =>
    let rest? :=
      if c = '"' || c = '\'' then
        match cs.dropWhile (· ≠ c) with
        | _ :: rest => some rest
        | [] => none
      else if c.isDigit then some (cs.dropWhile Char.isDigit)
      else dropName? (c :: cs)
    match rest? with
    | some (']' :: rest) => some rest
    | _ => none

/-- Whether the text is a sequence of accesses by `.name` and `[index]`; blanks may stand around
a dot. -/
def isAccesses : Nat → List Char → Bool
  | _, [] => true
  | 0, _ => false
  | fuel + 1, '[' :: cs => (dropIndex? cs).any (isAccesses fuel)
  | fuel + 1, cs =>
    match cs.dropWhile Text.isPatternBlank with
    | '.' :: cs => (dropName? (cs.dropWhile Text.isPatternBlank)).any (isAccesses fuel)
    | _ => false

/-- A name with accesses behind it, such as `form.items[0]`. -/
def isSimplePath (s : String) : Bool :=
  (dropName? s.toList).any fun rest => isAccesses rest.length rest

/-- What follows the word and at least one blank. -/
def dropWordAndBlank? (word cs : List Char) : Option (List Char) :=
  match Text.dropPrefix? word cs with
  | some (c :: rest) =>
    if Text.isPatternBlank c then some (rest.dropWhile Text.isPatternBlank) else none
  | _ => none

/-- Parameters without a bracket in them, and an arrow. -/
def startsArrow (cs : List Char) : Bool :=
  let rest? :=
    match cs with
    | '(' :: cs =>
      match cs.dropWhile (· ≠ ')') with
      | _ :: rest => some rest
      | [] => none
    | _ => dropName? cs
  rest?.any fun rest => Text.startsWith ['=', '>'] (rest.dropWhile Text.isPatternBlank)

/-- The word `function`, a name or none, and a parenthesis. -/
def startsFunction (cs : List Char) : Bool :=
  match Text.dropPrefix? ['f', 'u', 'n', 'c', 't', 'i', 'o', 'n'] cs with
  | none => false
  | some rest =>
    let opens (cs : List Char) := (cs.dropWhile Text.isPatternBlank).head? == some '('
    opens rest ||
      (Text.isPatternBlank (rest.headD 'x') &&
        let name := rest.dropWhile Text.isPatternBlank
        isNamePart (name.headD ' ') && opens (name.dropWhile isNamePart))

/-- Whether the text begins like an arrow function or a function. -/
def isFunctionExpression (s : String) : Bool :=
  let cs := s.toList.dropWhile Text.isPatternBlank
  let starts (cs : List Char) := startsArrow cs || startsFunction cs
  starts cs || (dropWordAndBlank? ['a', 's', 'y', 'n', 'c'] cs).any starts

/-- The source of a loop, where `cs` begins with the blanks before `in` or `of`. -/
def loopSource? (cs : List Char) : Option (List Char) :=
  match cs with
  | [] => none
  | c :: _ =>
    if !Text.isPatternBlank c then none
    else
      let word := cs.dropWhile Text.isPatternBlank
      let rest? := (dropWordAndBlank? ['i', 'n'] word).or (dropWordAndBlank? ['o', 'f'] word)
      match rest?.map (Text.dropRightWhile Text.isPatternBlank) with
      | some [] => none
      | source? => source?

/-- Looks for the first `in` or `of` behind `before`, which is given from its end. -/
def splitLoopFrom? (before : List Char) : List Char → Option (List Char × List Char)
  | [] => none
  | c :: cs =>
    match loopSource? (c :: cs) with
    | some source => some (before.reverse, source)
    | none => splitLoopFrom? (c :: before) cs

/-- The alias and the source of a loop such as `item in items`. A word at the start of the value
is part of the alias, unless nothing else can be the separator. -/
def splitLoop? (value : String) : Option (String × String) :=
  let cs := value.toList
  let found? := (splitLoopFrom? [] (cs.dropWhile Text.isPatternBlank)).or
    ((loopSource? cs).map ([], ·))
  found?.map fun (binder, source) =>
    (Text.trim (String.ofList binder), String.ofList source)

/-- A name with hyphens in camel case. `afterHyphen` holds behind a hyphen. -/
def camelizeFrom (afterHyphen : Bool) : List Char → List Char
  | [] => []
  | c :: cs =>
    if c = '-' then camelizeFrom true cs
    else (if afterHyphen then Text.upper c else [c]) ++ camelizeFrom false cs

def camelize (s : String) : String := String.ofList (camelizeFrom false s.toList)

end Unbundled.Template
