import ProtocInvocation.Argument.Positional
import ProtocInvocation.Plugin.Assignment
import ProtocInvocation.Settings.Binding

/-!
# What a vector says itself

The settings, directives and positional arguments of one argument vector, apart from the files that
it refers to.
-/

namespace ProtocInvocation

/-- What a vector says itself, apart from the files that it refers to. -/
structure OwnArguments where
  settings : Settings
  log : DirectiveLog
  positionals : List String
  deriving DecidableEq, Repr

namespace Argument

/-- The directive that an argument is. -/
def directive? : Argument → Option Directive
  | directive d => some d
  | _ => none

/-- The text of a positional argument. -/
def positional? : Argument → Option String
  | positional text => some text
  | _ => none

/-- Binds an argument that is a flag. -/
def bind (s : Settings) : Argument → Except Fault Settings
  | flag field spelling value => s.bind field spelling value
  | _ => .ok s

end Argument

namespace OwnArguments

/-- Binds the flags of a vector in order, and sets its directives and positional arguments apart. -/
def ofArguments (arguments : List Argument) : Except Fault OwnArguments := do
  let settings ← arguments.foldlM Argument.bind default
  return {
    settings
    log := .ofList (arguments.filterMap Argument.directive?)
    positionals := arguments.filterMap Argument.positional? }

/-- Reads a vector of tokens. -/
def read (registry : FlagRegistry) (tokens : List String) : Except Fault OwnArguments :=
  Argument.classify registry tokens >>= ofArguments

/-- What a vector assigns to plugins: by directives first, then by explicit paths. -/
def assignments (own : OwnArguments) : List (Except Fault Assignment) :=
  own.log.assignments ++ own.settings.pluginPathValues.map pathAssignment

end OwnArguments

variable {registry : FlagRegistry} {tokens : List String}

/-- The positional arguments of a vector are tokens of it. -/
theorem OwnArguments.positionals_subset {own : OwnArguments}
    (h : OwnArguments.read registry tokens = .ok own) : own.positionals ⊆ tokens := by
  intro text hm
  obtain ⟨found, hc, ho⟩ := bind_eq_ok_iff.1 h
  obtain ⟨settings, _, ho⟩ := bind_eq_ok_iff.1 ho
  rw [← Except.ok.inj ho] at hm
  obtain ⟨a, ha, he⟩ := List.mem_filterMap.1 hm
  cases a with
  | positional t =>
      cases he
      exact Argument.mem_of_positional_mem hc ha
  | _ => simp [Argument.positional?] at he

end ProtocInvocation
