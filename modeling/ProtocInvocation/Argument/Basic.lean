import ProtocInvocation.Fault
import ProtocInvocation.Flag.Name

/-!
# Arguments

From the tokens of an argument vector to its arguments: plugin directives, built-in flags and
positional arguments, in order. What a token in flag position means does not depend on the tokens
after it, except that the last argument in it may take the next token as its value, whatever that
token looks like.
-/

namespace ProtocInvocation

/-- One argument. -/
inductive Argument where
  | directive (d : Directive)
  /-- A built-in flag as spelled, without its value. -/
  | flag (field : Field) (spelling : String) (value : Option String)
  | positional (text : String)
  deriving DecidableEq, Repr

/-- An argument that lacks its value. -/
inductive PendingArgument where
  | directive (plugin : String) (kind : DirectiveKind) (spelling : String)
  | flag (field : Field) (spelling : String)
  deriving DecidableEq, Repr

namespace PendingArgument

/-- How the argument is spelled. -/
def spelling : PendingArgument → String
  | directive _ _ spelling | flag _ spelling => spelling

/-- The argument with its value. -/
def complete (value : String) : PendingArgument → Argument
  | directive plugin kind _ => .directive ⟨plugin, kind, value⟩
  | flag field spelling => .flag field spelling (some value)

end PendingArgument

/-- What a token in flag position means. -/
inductive TokenReading where
  /-- All later tokens are positional. -/
  | endOfFlags
  /-- The token is complete in itself. -/
  | complete (arguments : List Argument)
  /-- The next token is the value of the last argument. -/
  | awaiting (arguments : List Argument) (last : PendingArgument)
  deriving DecidableEq, Repr

namespace TokenReading

/-- The reading of an argument that has its value if `inline` is one and otherwise waits for it. -/
def ofPending (last : PendingArgument) : Option String → TokenReading
  | some value => .complete [last.complete value]
  | none => .awaiting [] last

/-- The reading with an argument in front. -/
def cons (a : Argument) : TokenReading → TokenReading
  | endOfFlags => endOfFlags
  | complete arguments => complete (a :: arguments)
  | awaiting arguments last => awaiting (a :: arguments) last

end TokenReading

namespace Argument

variable {registry : FlagRegistry}

/-! ## Tokens -/

/-- Reads a long name with the value that stands behind it in the token, if any. -/
def readNamed (registry : FlagRegistry) (name : String) (inline : Option String) :
    Except Fault TokenReading :=
  let spelling := "--" ++ name
  match FlagName.ofName name with
  | .directive plugin kind => .ok (.ofPending (.directive plugin kind spelling) inline)
  | .flag canonical =>
    match registry.long? canonical with
    | none => .error (.unknownFlag spelling)
    | some known =>
      match known.arity with
      | .noValue => .ok (.complete [.flag known.field spelling inline])
      | .requiresValue => .ok (.ofPending (.flag known.field spelling) inline)

/-- Reads what follows two dashes: a name, and a value after the first equals sign. -/
def readLong (registry : FlagRegistry) (body : String) : Except Fault TokenReading :=
  readNamed registry (Text.cut '=' body).1 (Text.cut '=' body).2

/-- The value that an equals sign begins. -/
def afterEquals? : List Char → Option String
  | '=' :: value => some (String.ofList value)
  | _ => none

/-- The value attached to a letter: what an equals sign begins, or else all that follows. -/
def attached? (rest : List Char) : Option String :=
  (afterEquals? rest).or (if rest = [] then none else some (String.ofList rest))

/-- Reads what follows one dash: letters of flags without a value, until an equals sign gives one
its value or a letter comes whose flag takes one. -/
def readCluster (registry : FlagRegistry) : List Char → Except Fault TokenReading
  | [] => .ok (.complete [])
  | letter :: rest =>
    let spelling := String.ofList ['-', letter]
    match registry.short? letter with
    | none => .error (.unknownFlag spelling)
    | some known =>
      match known.arity with
      | .requiresValue => .ok (.ofPending (.flag known.field spelling) (attached? rest))
      | .noValue =>
        match afterEquals? rest with
        | some value => .ok (.complete [.flag known.field spelling (some value)])
        | none => (readCluster registry rest).map (.cons (.flag known.field spelling none))

/-- Reads a token in flag position. -/
def readToken (registry : FlagRegistry) (token : String) : Except Fault TokenReading :=
  match token.toList with
  | ['-', '-'] => .ok .endOfFlags
  | '-' :: '-' :: body => readLong registry (String.ofList body)
  | '-' :: letter :: rest => readCluster registry (letter :: rest)
  | _ => .ok (.complete [.positional token])

/-! ## Vectors -/

/-- The arguments of a vector of tokens. -/
def classify (registry : FlagRegistry) : List String → Except Fault (List Argument)
  | [] => .ok []
  | token :: tokens =>
    match readToken registry token with
    | .error fault => .error fault
    | .ok .endOfFlags => .ok (tokens.map positional)
    | .ok (.complete found) => (classify registry tokens).map (found ++ ·)
    | .ok (.awaiting found last) =>
      match tokens with
      | [] => .error (.missingValue last.spelling)
      | value :: tokens => (classify registry tokens).map (found ++ last.complete value :: ·)

end Argument

end ProtocInvocation
