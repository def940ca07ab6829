import Unbundled.Config

/-!
The command line: parameters that may stand anywhere, a command, and the parameters of that
command. It is read from left to right, and the first fault or request for information decides.
-/
namespace Unbundled.Command

inductive Parameter where
  | verbose
  | json
  | help
  | version
  | cwd
  | tcpPort
  | host
  | config
  deriving DecidableEq, Repr

/-- What the arguments are read for. -/
inductive Topic where
  /-- The program, before a command is named. -/
  | program
  | version
  | dev
  deriving DecidableEq, Repr

inductive UsageError where
  | unknown (argument : String)
  | missingValue (p : Parameter)
  | invalidValue (p : Parameter) (value : String)
  | unneededValue (p : Parameter)
  | repeated (p : Parameter)
  | emptyEntry
  deriving DecidableEq, Repr

/-- Why reading ends early. -/
inductive Stop where
  | usage (e : UsageError)
  | version
  | help (t : Topic)
  deriving DecidableEq, Repr

namespace Parameter

def name : Parameter → String
  | verbose => "verbose"
  | json => "json"
  | help => "help"
  | version => "version"
  | cwd => "cwd"
  | tcpPort => "port"
  | host => "host"
  | config => "config"

def letter? : Parameter → Option Char
  | verbose => some 'v'
  | help => some 'h'
  | version => some 'V'
  | tcpPort => some 'p'
  | config => some 'c'
  | json | cwd | host => none

def takesValue : Parameter → Bool
  | cwd | tcpPort | host | config => true
  | verbose | json | help | version => false

end Parameter

def UsageError.message : UsageError → String
  | unknown argument => "unexpected argument '" ++ argument ++ "' found"
  | missingValue p => "a value is required for '--" ++ p.name ++ "' but none was supplied"
  | invalidValue p value => "invalid value '" ++ value ++ "' for '--" ++ p.name ++ "'"
  | unneededValue p => "no value is allowed for '--" ++ p.name ++ "'"
  | repeated p => "the argument '--" ++ p.name ++ "' cannot be used multiple times"
  | emptyEntry => "a value is required for the entry document"

namespace Topic

def parameters : Topic → List Parameter
  | program => [.verbose, .json, .cwd, .help, .version]
  | version => [.verbose, .json, .cwd, .help]
  | dev => [.verbose, .json, .cwd, .help, .tcpPort, .host, .config]

def named? (t : Topic) (name : String) : Option Parameter :=
  t.parameters.find? (·.name = name)

def lettered? (t : Topic) (c : Char) : Option Parameter :=
  t.parameters.find? (·.letter? = some c)

end Topic

/-- What the arguments for one topic have given. -/
structure Given where
  verbosity : Nat := 0
  json : Bool := false
  cwd : Option Path := none
  tcpPort : Option Nat := none
  host : Option String := none
  config : Option Path := none
  entry : Option Path := none
  deriving DecidableEq, Repr

/-- A `tcpPort` in decimal digits, behind an optional sign. -/
def tcpPort? (value : String) : Option Nat :=
  let cs := value.toList
  let ds := if cs.head? = some '+' || cs.head? = some '-' then cs.drop 1 else cs
  let n : Nat := ds.foldl (fun n c => 10 * n + (c.toNat - 48)) 0
  if ds.isEmpty || !ds.all Char.isDigit then none
  else if cs.head? = some '-' then if n = 0 then some 0 else none
  else if n ≤ greatestPort then some n
  else none

namespace Given

/-- Sets a field once. -/
def once {α : Type} (p : Parameter) (field : Option α) (value : α) : Except Stop (Option α) :=
  if field.isSome then .error (.usage (.repeated p)) else .ok (some value)

def path (p : Parameter) (value : String) : Except Stop Path :=
  if value = "" then .error (.usage (.invalidValue p value)) else .ok ⟨value⟩

/-- Takes the value of a parameter. -/
def set (p : Parameter) (value : String) (g : Given) : Except Stop Given :=
  match p with
  | .cwd => return { g with cwd := ← once p g.cwd (← path p value) }
  | .config => return { g with config := ← once p g.config (← path p value) }
  | .host => return { g with host := ← once p g.host value }
  | .tcpPort =>
    match tcpPort? value with
    | some n => return { g with tcpPort := ← once p g.tcpPort n }
    | none => .error (.usage (.invalidValue p value))
  | .verbose | .json | .help | .version => .error (.usage (.unneededValue p))

/-- Takes a parameter that has no value. -/
def mark (t : Topic) (p : Parameter) (g : Given) : Except Stop Given :=
  match p with
  | .verbose => .ok { g with verbosity := g.verbosity + 1 }
  | .json => if g.json then .error (.usage (.repeated p)) else .ok { g with json := true }
  | .help => .error (.help t)
  | .version => .error .version
  | .cwd | .tcpPort | .host | .config => .error (.usage (.missingValue p))

end Given

/-- The form of an argument. -/
inductive Word where
  /-- Two dashes: only plain words follow. -/
  | escape
  | long (name : String) (value? : Option String)
  /-- Letters behind one dash. -/
  | letters (cs : List Char)
  | plain
  deriving DecidableEq, Repr

def Word.ofText (argument : String) : Word :=
  match argument.toList with
  | ['-', '-'] => .escape
  | '-' :: '-' :: cs =>
    let name := cs.takeWhile (· ≠ '=')
    .long (String.ofList name)
      (if name.length < cs.length then some (String.ofList (cs.drop (name.length + 1))) else none)
  | '-' :: c :: cs => .letters (c :: cs)
  | _ => .plain

/-- Reads letters; a letter that takes a value takes the rest, or waits for the next argument. -/
def readLetters (t : Topic) : List Char → Given → Except Stop (Given × Option Parameter)
  | [], g => .ok (g, none)
  | c :: cs, g =>
    match t.lettered? c with
    | none => .error (.usage (.unknown (String.ofList ['-', c])))
    | some p =>
      if p.takesValue then
        match cs with
        | [] => .ok (g, some p)
        | '=' :: value => return (← g.set p (String.ofList value), none)
        | value => return (← g.set p (String.ofList value), none)
      else do readLetters t cs (← g.mark t p)

def readLong (t : Topic) (name : String) (value? : Option String) (g : Given) :
    Except Stop (Given × Option Parameter) :=
  match t.named? name with
  | none => .error (.usage (.unknown ("--" ++ name)))
  | some p =>
    match p.takesValue, value? with
    | true, some value => return (← g.set p value, none)
    | true, none => .ok (g, some p)
    | false, some _ => .error (.usage (.unneededValue p))
    | false, none => return (← g.mark t p, none)

/-- Which help is asked for behind the command `help`. -/
def helpTopic : List String → Stop
  | [] => .help .program
  | ["version"] => .help .version
  | ["dev"] => .help .dev
  | argument :: _ => .usage (.unknown argument)

/-- A command and the arguments behind it. -/
abbrev Next := Option (Topic × List String)

/-- The command that a word names, and what follows it. -/
def command? (argument : String) (rest : List String) : Except Stop (Topic × List String) :=
  match argument with
  | "version" => .ok (.version, rest)
  | "dev" => .ok (.dev, rest)
  | "help" => .error (helpTopic rest)
  | _ => .error (.usage (.unknown argument))

/-- Takes a plain word as the entry document. -/
def Given.takeEntry (argument : String) (g : Given) : Except Stop Given :=
  if g.entry.isSome then .error (.usage (.unknown argument))
  else if argument = "" then .error (.usage .emptyEntry)
  else .ok { g with entry := some ⟨argument⟩ }

/-- Reads arguments up to a command. `waiting?` is a parameter whose value comes next; behind the
escape all words are plain. -/
def readFor (t : Topic) (waiting? : Option Parameter) (escaped : Bool) (g : Given) :
    List String → Except Stop (Given × Next)
  | [] =>
    match waiting? with
    | some p => .error (.usage (.missingValue p))
    | none => .ok (g, none)
  | argument :: rest =>
    match waiting?, if escaped then .plain else Word.ofText argument with
    | some p, .plain => do readFor t none escaped (← g.set p argument) rest
    | some p, _ => .error (.usage (.missingValue p))
    | none, .escape => readFor t none true g rest
    | none, .long name value? => do
      let (g, waiting?) ← readLong t name value? g
      readFor t waiting? escaped g rest
    | none, .letters cs => do
      let (g, waiting?) ← readLetters t cs g
      readFor t waiting? escaped g rest
    | none, .plain =>
      match t with
      | .program =>
        if escaped then .error (.usage (.unknown argument))
        else do return (g, some (← command? argument rest))
      | .version => .error (.usage (.unknown argument))
      | .dev => do readFor t none escaped (← g.takeEntry argument) rest

end Command

/-- What the server is started with. -/
structure DevOptions where
  /-- The working directory, where it is not the current one. -/
  cwd : Option Path := none
  entry : Option Path := none
  tcpPort : Nat := Config.defaultPort
  host : String := Config.defaultHost
  config : Option Path := none
  deriving DecidableEq, Repr

inductive Command where
  | version
  | dev (options : DevOptions)
  deriving DecidableEq, Repr

namespace Command

/-- The command of a command line; without one, the version is shown. -/
def ofArguments (arguments : List String) : Except Stop Command := do
  let (outer, next) ← readFor .program none false {} arguments
  match next with
  | none => return .version
  | some (t, rest) =>
    let (g, _) ← readFor t none false {} rest
    match t with
    | .program | .version => return .version
    | .dev =>
      return .dev
        { cwd := g.cwd <|> outer.cwd
          entry := g.entry
          tcpPort := g.tcpPort.getD Config.defaultPort
          host := g.host.getD Config.defaultHost
          config := g.config }

end Command

end Unbundled
