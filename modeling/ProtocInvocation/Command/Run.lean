import ProtocInvocation.Command.Line
import ProtocInvocation.Config
import ProtocInvocation.Environment.Document
import ProtocInvocation.Log.Filter
import ProtocInvocation.Text.Lossy

/-!
# Running the command

What a command line comes to: help, a refusal of its flags, a failure with a message, or an
environment. Before the argument vector is resolved, it has to be text, the configuration has to be
in order, and logging has to start.
-/

namespace ProtocInvocation.Command

/-- What surrounds a run of the command. -/
structure Surroundings where
  /-- The value of the variable for the configuration file. -/
  configVariable : Option Token := none
  /-- The value of the variable for the log filter. -/
  filterVariable : Option Token := none
  /-- The user's home directory. -/
  home : Option String := none
  /-- The directory for configuration files, if the user has set one. -/
  configHome : Option String := none

/-- A name below a directory. -/
def join (directory name : String) : String :=
  if directory = "" then name
  else if directory.toList.getLast? = some '/' then directory ++ name
  else directory ++ "/" ++ name

/-- The configuration file that is used when none is named. -/
def Surroundings.usualFile (s : Surroundings) : String :=
  let directory :=
    match s.configHome.filter (·.toList.head? = some '/'), s.home with
    | some directory, _ => directory
    | none, some home => join home ".config"
    | none, none => "."
  join directory "protoc-compat/config.toml"

/-- The path of the configuration file of a run. A name that is not text is no path. -/
def configPath? (s : Surroundings) : Option Token → Option String
  | none => some s.usualFile
  | some name => String.fromUTF8? name

/-- The tokens of an argument vector as texts, or the first that is none. -/
def texts : List Token → Except Token (List String)
  | [] => .ok []
  | token :: tokens =>
    match String.fromUTF8? token with
    | none => .error token
    | some text => (texts tokens).map (text :: ·)

/-- Why a run fails. -/
inductive Failure where
  | notText (token : Token)
  | config (fault : ConfigFault)
  /-- The log filter has parts that begin or end within a character. -/
  | tornFilter
  | arguments (fault : Fault)
  deriving DecidableEq

/-- The message of a failure. -/
def Failure.message : Failure → String
  | .notText token => "argument is not valid UTF-8: " ++ Text.lossy token
  | .config fault => fault.message
  | .tornFilter => "a part of the log filter begins or ends within a character"
  | .arguments fault => fault.message

/-- The code that a run with this failure ends with. -/
def Failure.exitCode : Failure → UInt32
  | .notText _ | .config _ | .arguments _ => 1
  | .tornFilter => 101

/-- How the command ends. -/
inductive Outcome where
  | help
  | misuse
  | failure (cause : Failure)
  | environment (env : Environment)

/-- The code that the command ends with. -/
def Outcome.exitCode : Outcome → UInt32
  | .help | .environment _ => 0
  | .failure cause => cause.exitCode
  | .misuse => 2

/-- Starts logging with the filter of the variable, or with the configured one. -/
def startLog (filter : Option String) (config : Config) : Except Failure Unit :=
  if Log.canStart filter config.logging.level then .ok () else .error .tornFilter

/-- Resolves the argument vector of a run. -/
def resolve (store : FileStore) (path filter : Option String) (vector : List Token) :
    Except Failure Environment := do
  let arguments ← (texts vector).mapError .notText
  let config ← match path with
    | some path => (Config.load store.toFileSystem path).mapError .config
    | none => .ok {}
  startLog filter config
  (Environment.resolve store config.defaults arguments).mapError .arguments

/-- What a command line comes to before any file is read. -/
inductive Plan where
  | help
  | misuse
  /-- An argument vector is to be resolved with the configuration file at `path` and with the log
  filter of the variable. -/
  | resolve (path filter : Option String) (vector : List Token)
  deriving DecidableEq

/-- Reads the tokens after the command's own name. -/
def plan (s : Surroundings) (tokens : List Token) : Plan :=
  match request s.configVariable (split tokens).1 with
  | .help => .help
  | .misuse => .misuse
  | .run file =>
    .resolve (configPath? s file) (s.filterVariable.bind String.fromUTF8?) (split tokens).2

/-- Carries out a plan. -/
def Plan.run (store : FileStore) : Plan → Outcome
  | help => .help
  | misuse => .misuse
  | resolve path filter vector =>
    match Command.resolve store path filter vector with
    | .ok env => .environment env
    | .error cause => .failure cause

/-- Runs the command on the tokens after its own name. -/
def run (store : FileStore) (s : Surroundings) (tokens : List Token) : Outcome :=
  (plan s tokens).run store

end ProtocInvocation.Command
