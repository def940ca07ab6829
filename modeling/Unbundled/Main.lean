import Unbundled.Command.Launch
import Unbundled.Http.Router

/-!
The program: runs its command line on the files of the machine. A server that comes up answers
requests from standard input, one a line: a method, a blank and a target.
-/
namespace Unbundled

/-- What a failed look at the disk says. -/
def sightingOf : IO.Error → Sighting
  | .noFileOrDirectory .. => .error .noEntry
  | .inappropriateType _ code _ =>
    if code = 21 then .ok .directory else .error .notDirectory
  | e => .error ⟨false, toString e⟩

/-- Looks at a path on the disk. -/
def sight (path : Path) : IO Sighting := do
  match ← (IO.FS.readBinFile path.text).toBaseIO with
  | .ok octets => return .ok (.file octets.toList)
  | .error e => return sightingOf e

/-- Runs a computation on the files of the disk. Work is done where it is asked for, however long
it takes. -/
def Lookup.perform {α : Type} : Lookup α → IO α
  | .done a => return a
  | .look path next => do (next (← sight path)).perform
  | .work _ next => (next {}).perform

/-- The status and the headers of an answer. -/
def Http.Answer.head (a : Http.Answer) : List String :=
  [toString a.status]
    ++ (a.contentType.map ("content-type: " ++ ·)).toList
    ++ (a.cache.map ("cache-control: " ++ ·.header)).toList
    ++ (a.allow.map ("allow: " ++ ·)).toList
    ++ [""]

/-- Answers one request, given as its method and its target. -/
def answerLine (config : Config) (line : String) : Lookup Http.Answer :=
  let cs := line.toList
  let method := cs.takeWhile (· ≠ ' ')
  match Http.Target.ofText? (Text.trim (String.ofList (cs.drop method.length))) with
  | some target => Http.answer config (String.ofList method) target
  | none => return { status := 400 }

partial def serveLines (config : Config) (input output : IO.FS.Stream) : IO Unit := do
  let line ← input.getLine
  unless line.isEmpty do
    let answer ← (answerLine config line).perform
    for l in answer.head do output.putStrLn l
    output.write ⟨answer.body.toArray⟩
    output.flush
    serveLines config input output

end Unbundled

open Unbundled in
def main (arguments : List String) : IO UInt32 := do
  let dir : Path := ⟨toString (← IO.currentDir)⟩
  let outcome ← (Command.run dir arguments).perform
  for l in outcome.lines do IO.println l
  match outcome.ending with
  | .finished => return 0
  | .misused e =>
    IO.eprintln ("error: " ++ e.message)
    return 2
  | .failed reason =>
    IO.eprintln ("Error: " ++ reason)
    return 1
  | .serving config =>
    serveLines config (← IO.getStdin) (← IO.getStdout)
    return 0
