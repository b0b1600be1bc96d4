import ProtocInvocation.Argument.Own
import ProtocInvocation.Reference
import ProtocInvocation.Settings.Merge

/-!
# Expansion of argument files

Each argument file is read as a vector of its own, and what it gives joins the vector that refers to
it. All vectors of one expansion share the paths that were referenced and the plugin table, also
with later expansions in the same context.

References can go on for ever in a file system without end, so `expandWithin` expands up to a given
depth of nesting. `Expansion.Bound` has the depth that is enough for a file store.
-/

namespace ProtocInvocation

/-! ## Contexts and expansions -/

/-- What all vectors of an expansion share. -/
structure ExpansionContext where
  /-- The paths that were referenced, in order. -/
  visited : List String := []
  plugins : PluginTable := default
  deriving DecidableEq, Repr, Inhabited

/-- What a vector gives together with the files it refers to. -/
structure Expansion where
  settings : Settings := default
  filePaths : List String := []
  deriving DecidableEq, Repr, Inhabited

/-- An expansion joined by what came after it. -/
instance : Append Expansion where
  append e later := ⟨e.settings.merge later.settings, e.filePaths ++ later.filePaths⟩

/-- A step of an expansion. It ends with a value or a fault, and in both cases with a context; or it
does not end within the depth allowed. -/
abbrev Expanding := ExceptT Fault (StateT ExpansionContext Option)

namespace Expanding

/-- The step that does not end. -/
def unending {α : Type} : Expanding α :=
  ExceptT.mk fun _ => none

/-- The step that a value or fault is. -/
def ofExcept {α : Type} (result : Except Fault α) : Expanding α :=
  ExceptT.mk fun context => some (result, context)

/-- Makes assignments to the shared plugin table. -/
def record (assignments : List (Except Fault Assignment)) : Expanding Unit :=
  ExceptT.mk fun context =>
    let (result, plugins) := context.plugins.record assignments
    some (result, { context with plugins })

/-- Notes a reference, unless it was noted before. -/
def visit (path : String) : Expanding Unit :=
  ExceptT.mk fun context =>
    if path ∈ context.visited then some (.error (.recursiveReference path), context)
    else some (.ok (), { context with visited := context.visited ++ [path] })

variable {α β : Type} {context : ExpansionContext}

@[simp] theorem ofExcept_ok_bind {a : α} {next : α → Expanding β} :
    (ofExcept (.ok a) >>= next) = next a := rfl

@[simp] theorem ofExcept_error_bind {fault : Fault} {next : α → Expanding β} :
    (ofExcept (.error fault) >>= next) = ofExcept (.error fault) := rfl

@[simp] theorem run_unending : (unending : Expanding α).run.run context = none := rfl

@[simp] theorem run_ofExcept {result : Except Fault α} :
    (ofExcept result).run.run context = some (result, context) := rfl

@[simp] theorem run_record {assignments : List (Except Fault Assignment)} :
    (record assignments).run.run context =
      some ((context.plugins.record assignments).1,
        { context with plugins := (context.plugins.record assignments).2 }) := rfl

@[simp] theorem run_visit {path : String} :
    (visit path).run.run context =
      if path ∈ context.visited then some (.error (.recursiveReference path), context)
      else some (.ok (), { context with visited := context.visited ++ [path] }) := rfl

end Expanding

/-- What a positional argument gives: itself as a file to compile, or the expansion `nested` of the
arguments in the file it refers to. -/
def expandPositional (files : FileSystem) (nested : List String → Expanding Expansion)
    (argument : String) : Expanding Expansion :=
  if argument = "" then .ofExcept (.error .emptyArgument)
  else
    match reference? argument with
    | none => pure { filePaths := [argument] }
    | some path => do
      Expanding.visit path
      nested (← Expanding.ofExcept (readArgumentFile files path))

/-- Expands a vector of tokens whose files are nested less than `depth` deep. Faults of the whole
vector come before those of its assignments, and those before the files it refers to. -/
def expandWithin (files : FileSystem) (registry : FlagRegistry) :
    (depth : Nat) → List String → Expanding Expansion
  | 0, _ => .unending
  | depth + 1, tokens => do
    let own ← Expanding.ofExcept (OwnArguments.read registry tokens)
    Expanding.record own.assignments
    let expandOne := expandPositional files (expandWithin files registry depth)
    own.positionals.foldlM (fun e argument => (e ++ ·) <$> expandOne argument)
      { settings := own.settings }

end ProtocInvocation
