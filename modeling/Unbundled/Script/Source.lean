import Unbundled.Script.Diagnostic
import Unbundled.Script.Parser.Module

/-!
From the text of a script to its tree. Spans count octets from the start of the text, a byte
order mark left out.
-/
namespace Unbundled.Script

/-- A script that was accepted, with its comments. -/
structure Parsed where
  module : Module
  comments : Comments
  deriving Inhabited

/-- The text behind a byte order mark, if there is one. -/
def withoutMark : List Char → List Char
  | '\ufeff' :: cs => cs
  | cs => cs

/-- Where `offset` lies, counted from the place `p`. -/
def Position.advance (p : Position) : Nat → List Char → Position
  | 0, _ | _, [] => p
  | offset, c :: cs =>
    if c.utf8Size ≤ offset then
      advance (if c = '\n' then ⟨p.line + 1, 0⟩ else ⟨p.line, p.column + 1⟩)
        (offset - c.utf8Size) cs
    else p

/-- How an error in the text `cs` of a file is reported. -/
def Report.toDiagnostic (file : String) (cs : List Char) (r : Report) : Diagnostic :=
  ⟨.parse, file ++ ": " ++ r.error.text, some (Position.advance ⟨1, 0⟩ r.span.lo cs)⟩

/-- An error that stops the parser wins; without one, the first that was noted counts. -/
def parseModule (file source : String) : Except Diagnostic Parsed :=
  let cs := withoutMark source.toList
  let depth := 16 * (cs.length + 8)
  match ((Parser.module (Parser.grammar depth)).run {}).run { scanner := { rest := cs } } with
  | (.error r, _) => .error (r.toDiagnostic file cs)
  | (.ok module, s) =>
    match s.scanner.noted.getLast? with
    | some r => .error (r.toDiagnostic file cs)
    | none => .ok ⟨module, s.scanner.comments⟩

/-- Parses `source` as an expression, in parentheses: spans count from the opening one. -/
def parseExpression (source : String) : Except Diagnostic Node := do
  let parsed ← parseModule "expression" ("(" ++ source ++ ")")
  match parsed.module.body with
  | [.exprStmt _ e] => return e
  | _ => throw (.parseError ("Expected a single expression: " ++ source))

end Unbundled.Script
