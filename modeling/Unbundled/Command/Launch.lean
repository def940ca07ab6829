import Unbundled.Address
import Unbundled.Command.Line
import Unbundled.Project

/-!
Running a command: the lines that it prints, and how it ends. A server that comes up ends in
serving with the settings that the command line and the configuration file lead to.
-/
namespace Unbundled.Command

inductive Ending where
  | finished
  /-- The command line is at fault. -/
  | misused (e : UsageError)
  /-- The server cannot be started. -/
  | failed (reason : String)
  | serving (config : Config)
  deriving DecidableEq, Repr

structure Outcome where
  lines : List String
  ending : Ending
  deriving DecidableEq, Repr

def versionLine : String := "toyvite 0.1.0"

def sharedHelp : List String :=
  ["  -v, --verbose        Increase logging verbosity",
    "      --json           Emit logs as JSON lines",
    "      --cwd <PATH>     Override the working directory",
    "  -h, --help           Print help"]

def helpLines : Topic → List String
  | .program =>
    ["An unbundled dev server for single-file component apps", "",
      "Usage: toyvite [OPTIONS] [COMMAND]", "", "Commands:",
      "  version  Print version information", "  dev      Start the dev server", "", "Options:"]
      ++ sharedHelp ++ ["  -V, --version        Print version"]
  | .version =>
    ["Print version information", "", "Usage: toyvite version [OPTIONS]", "", "Options:"]
      ++ sharedHelp
  | .dev =>
    ["Start the dev server", "", "Usage: toyvite dev [OPTIONS] [ENTRY]", "", "Options:"]
      ++ sharedHelp
      ++ ["  -p, --port <PORT>    Port to listen on",
        "      --host <HOST>    Host to bind to",
        "  -c, --config <FILE>  Path to config file"]

/-- A setting of the command line counts where it differs from the default; else the file's
setting does, if it has one. -/
def prefer {α : Type} [DecidableEq α] (given default : α) (file? : Option α) : α :=
  if given = default then file?.getD given else given

/-- The address that a host name stands for. -/
def addressOf? (host : String) : Option Address :=
  Address.ofText? (if host = Config.defaultHost then "127.0.0.1" else host)

/-- Why a server cannot listen under a host name, if it cannot. -/
def listenFault? (host : String) : Option String :=
  match addressOf? host with
  | none => some "invalid socket address syntax"
  | some a => if a.isLocal then none else some "Cannot assign requested address (os error 99)"

def shownPath (root path : Path) : String := ((path.relativeTo? root).getD path).text

def servingLines (host : String) (tcpPort : Nat) (root entry : Path) : List String :=
  ["", "  Dev server running at http://" ++ host ++ ":" ++ toString tcpPort,
    "  Serving " ++ shownPath root entry, "", "  Press Ctrl+C to stop"]

/-- Starts the server of the project that the directory belongs to. -/
def startIn (root : Path) (options : DevOptions) : Lookup Outcome := do
  match ← (Config.load root options.config).run with
  | .error e => return ⟨[], .failed e.message⟩
  | .ok loaded? =>
    let loaded := match loaded? with
      | some (path, _) => ["  Loaded config from " ++ shownPath root path]
      | none => []
    let file := (loaded?.map (·.2)).getD {}
    let tcpPort := prefer options.tcpPort Config.defaultPort file.server.tcpPort
    let host := prefer options.host Config.defaultHost file.server.host
    let config := Config.ofFile root { file with entry := options.entry <|> file.entry }
    match listenFault? host with
    | some fault => return ⟨loaded, .failed fault⟩
    | none => return ⟨loaded ++ servingLines host tcpPort root config.entry, .serving config⟩

/-- Starts a server in the working directory. -/
def start (workingDir : Path) (options : DevOptions) : Lookup Outcome := do
  let dir := match options.cwd with
    | some path => workingDir.join path
    | none => workingDir
  match ← Lookup.entry dir with
  | .error e => return ⟨[], .failed e.text⟩
  | .ok _ => startIn ((← Project.root? dir.plain).getD dir.plain) options

/-- Runs a command line. -/
def run (workingDir : Path) (arguments : List String) : Lookup Outcome :=
  match ofArguments arguments with
  | .ok .version | .error .version => return ⟨[versionLine], .finished⟩
  | .ok (.dev options) => start workingDir options
  | .error (.help t) => return ⟨helpLines t, .finished⟩
  | .error (.usage e) => return ⟨[], .misused e⟩

end Unbundled.Command
