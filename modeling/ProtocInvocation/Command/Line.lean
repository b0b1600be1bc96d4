import ProtocInvocation.Text.Cut

/-!
# Command lines

A command line begins with flags of the command itself, which ask for help or name a configuration
file. The first token that is none of these begins the argument vector to resolve. Tokens are bytes,
because a command line may hold any.
-/

namespace ProtocInvocation

/-- A token of a command line. -/
abbrev Token := ByteArray

instance : DecidableEq Token := ByteArray.instDecidableEq

namespace Command

/-! ## The command's own flags -/

/-- The flag that names a configuration file. -/
def configFlag : String := "--compat-config"

/-- The variable that names a configuration file when no flag does. -/
def configVariable : String := "PROTOC_COMPAT_CONFIG"

/-- One of the command's own flags, with its value if it takes one. -/
inductive OwnFlag where
  /-- A request for help, as spelled. -/
  | help (spelling : String)
  /-- The file is named after an equals sign. -/
  | configInline (file : String)
  /-- The file is named by the next token, if there is one. -/
  | configNext (file : Option Token)
  deriving DecidableEq

/-- The tokens that a flag takes up. -/
def OwnFlag.tokens : OwnFlag → List Token
  | .help spelling => [spelling.toUTF8]
  | .configInline file => [(configFlag ++ "=" ++ file).toUTF8]
  | .configNext file => configFlag.toUTF8 :: file.toList

/-- Whether a token asks for help. -/
def isHelp (text : String) : Bool :=
  text = "-h" || text = "--help"

/-- The file that a token names after an equals sign. -/
def inlineFile? (text : String) : Option String :=
  Text.dropLead? (configFlag ++ "=") text

/-- A flag in front of what was set apart after it. -/
def consFlag (flag : OwnFlag) (parts : List OwnFlag × List Token) : List OwnFlag × List Token :=
  (flag :: parts.1, parts.2)

/-- Sets apart the command's own flags and the argument vector. -/
def split : List Token → List OwnFlag × List Token
  | [] => ([], [])
  | token :: tokens =>
    match String.fromUTF8? token with
    | none => ([], token :: tokens)
    | some text =>
      if text = configFlag then
        match tokens with
        | [] => ([.configNext none], [])
        | file :: tokens => consFlag (.configNext (some file)) (split tokens)
      else if isHelp text then consFlag (.help text) (split tokens)
      else
        match inlineFile? text with
        | some file => consFlag (.configInline file) (split tokens)
        | none => ([], token :: tokens)

/-- What the command's own flags ask for. -/
inductive Request where
  | help
  /-- The flags are misused. -/
  | misuse
  /-- A run with this configuration file, or with the usual one. -/
  | run (file : Option Token)
  deriving DecidableEq

/-- Whether a token is one of the command's own flags in any spelling, or the mark that ends flags.
The part of a long flag before its equals sign has to be text. -/
def isReserved (file : Token) : Bool :=
  let bytes := file.data.toList
  let dash := '-'.toUInt8
  match String.fromUTF8? ⟨(bytes.takeWhile (· ≠ '='.toUInt8)).toArray⟩ with
  | some flag =>
    flag = configFlag || flag = "--help" || bytes = [dash, dash] ||
      (bytes.head? = some dash && bytes.tail ≠ [] && bytes.tail.all (· = 'h'.toUInt8))
  | none => bytes.take 2 = [dash, dash]

/-- What flags ask for when `file` was named before them. The first flag that asks for help or is
misused decides. -/
def requestAfter (file : Option Token) : List OwnFlag → Request
  | [] => .run file
  | .help _ :: _ => .help
  | .configInline name :: later =>
    if file.isSome ∨ name = "" then .misuse else requestAfter (some name.toUTF8) later
  | .configNext none :: _ => .misuse
  | .configNext (some name) :: later =>
    if file.isSome ∨ name.isEmpty ∨ isReserved name then .misuse else requestAfter (some name) later

/-- What flags ask for when a variable may have `preset` the configuration file. It counts only if
no flag names a file. -/
def request (preset : Option Token) (flags : List OwnFlag) : Request :=
  match requestAfter none flags, preset with
  | .run none, some name => if name.isEmpty then .misuse else .run (some name)
  | asked, _ => asked

end Command

end ProtocInvocation
