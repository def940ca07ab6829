import Unbundled.Script.Comment

/-!
Where printed text goes: lines that know their indentation, and the comments that are still to be
written.
-/
namespace Unbundled.Script

structure Writer where
  text : String := ""
  lineStart : Bool := true
  /-- How many levels a new line is indented. -/
  depth : Nat := 0
  comments : Comments := {}

abbrev Print := StateM Writer

namespace Print

/-- Writes text that is not empty, behind the indentation at the start of a line. -/
def put (s : String) : Print Unit :=
  unless s.isEmpty do
    modify fun w =>
      { w with
        text := (if w.lineStart then w.text ++ "".pushn ' ' (4 * w.depth) else w.text) ++ s
        lineStart := false }

/-- Ends the line, if anything stands on it. -/
def newLine : Print Unit := modify fun w =>
  if w.lineStart then w else { w with text := w.text ++ "\n", lineStart := true }

def indented (p : Print Unit) : Print Unit := do
  modify fun w => { w with depth := w.depth + 1 }
  p
  modify fun w => { w with depth := w.depth - 1 }

/-- Writes comments as they were. `spaced` puts a blank before each. -/
def putComments (spaced : Bool) : List Comment → Print Unit
  | [] => pure ()
  | c :: cs => do
    if spaced then put " "
    if c.isBlock then
      put ("/*" ++ c.text ++ "*/ ")
    else
      put ("//" ++ c.text)
      newLine
    putComments spaced cs

/-- Writes the comments before the token at `offset`. -/
def leading (offset : Nat) : Print Unit := do
  let (cs, comments) := (← get).comments.takeLeading offset
  modify fun w => { w with comments := comments }
  putComments false cs

/-- Writes the comments behind the token that ends at `offset`. `spaced` puts a blank before
each. -/
def following (spaced : Bool) (offset : Nat) : Print Unit := do
  let (cs, comments) := (← get).comments.takeTrailing offset
  modify fun w => { w with comments := comments }
  putComments spaced cs

def trailing (offset : Nat) : Print Unit := following true offset

def hasLeading (offset : Nat) : Print Bool :=
  return (← get).comments.leading.any (·.1 == offset)

end Print

/-- The four hexadecimal digits of a surrogate, written behind a backslash and `u`, with or
without a brace. -/
def isSurrogateEscape : List Char → Bool
  | 'u' :: '\x7b' :: d :: a :: b :: c :: _ | 'u' :: d :: a :: b :: c :: _ =>
    let isHex (c : Char) := c.isDigit || ('a' ≤ c && c ≤ 'f') || ('A' ≤ c && c ≤ 'F')
    (d = 'd' || d = 'D') && isHex a && isHex b && isHex c
      && !(a.isDigit && a != '8' && a != '9')
  | _ => false

/-- The two-digit escape of a small number. -/
def hexEscape (n : Nat) : List Char :=
  ['\\', 'x', Nat.digitChar (n / 16), Nat.digitChar (n % 16)]

/-- The characters of a string literal in the given quotes. A lone surrogate, which a value holds
as its escape, is left alone. -/
def escapeIn (quote : Char) : List Char → List Char
  | [] => []
  | c :: cs =>
    (if c = '\x00' then
      match cs with
      | d :: _ => if d.isDigit then hexEscape 0 else ['\\', '0']
      | [] => ['\\', '0']
    else if c = '\x08' then ['\\', 'b']
    else if c = '\x0c' then ['\\', 'f']
    else if c = '\n' then ['\\', 'n']
    else if c = '\r' then ['\\', 'r']
    else if c = '\x0b' then ['\\', 'v']
    else if c = '\t' then ['\t']
    else if c = '\\' then (if isSurrogateEscape cs then ['\\'] else ['\\', '\\'])
    else if c = quote then ['\\', c]
    else if c.toNat < 0x20 then hexEscape c.toNat
    else if c = '\u2028' then ['\\', 'u', '2', '0', '2', '8']
    else if c = '\u2029' then ['\\', 'u', '2', '0', '2', '9']
    else if c = '\ufeff' then ['\\', 'u', 'F', 'E', 'F', 'F']
    else [c]) ++ escapeIn quote cs

/-- A string literal in double quotes, unless its value has more of them than of single ones. -/
def quoteLiteral (value : String) : String :=
  let cs := value.toList
  let quote := if cs.count '"' > cs.count '\'' then '\'' else '"'
  String.ofList (quote :: escapeIn quote cs ++ [quote])

end Unbundled.Script
