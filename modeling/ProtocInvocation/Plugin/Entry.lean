import ProtocInvocation.Fault
import ProtocInvocation.Plugin.Directive

/-!
# What is known of a plugin

A plugin's entry has three parts, and each is given a value at most once. An entry that has options
or a path is of use only if it also says where the plugin writes.
-/

namespace ProtocInvocation

/-- What is known of a plugin. -/
structure PluginEntry where
  /-- Where the plugin writes; empty until it is told. -/
  out : String := ""
  opt : Option String := none
  path : Option String := none
  deriving DecidableEq, Repr, Inhabited

/-- A part of an entry. -/
inductive PluginPart where
  | out
  | opt
  | path
  deriving DecidableEq, Repr

/-- The part that directives of a kind give a value. -/
def DirectiveKind.part : DirectiveKind → PluginPart
  | .out => .out
  | .opt => .opt

/-- The fault of giving a part of a plugin's entry a second value. -/
def PluginPart.duplicate (plugin : String) : PluginPart → Fault
  | .out => .duplicateOut plugin
  | .opt => .duplicateOpt plugin
  | .path => .duplicatePluginPath plugin

namespace PluginEntry

/-- Whether a part has a value. An empty output location is none. -/
def isTaken (entry : PluginEntry) : PluginPart → Bool
  | .out => entry.out ≠ ""
  | .opt => entry.opt.isSome
  | .path => entry.path.isSome

/-- The entry with a value given to a part. Empty options are none. -/
def assign (entry : PluginEntry) (value : String) : PluginPart → PluginEntry
  | .out => { entry with out := value }
  | .opt => { entry with opt := if value = "" then none else some value }
  | .path => { entry with path := some value }

/-- The fault of an entry that has options or a path and nowhere to write. -/
def inactionable? (plugin : String) (entry : PluginEntry) : Option Fault :=
  if entry.out ≠ "" then none
  else if entry.opt.isSome then some (.optWithoutOut plugin)
  else if entry.path.isSome then some (.pathWithoutOut plugin)
  else none

theorem inactionable?_eq_none_iff {plugin : String} {entry : PluginEntry} :
    entry.inactionable? plugin = none ↔
      entry.out ≠ "" ∨ (entry.opt = none ∧ entry.path = none) := by
  by_cases h : entry.out = "" <;> cases ho : entry.opt <;> cases hp : entry.path <;>
    simp [inactionable?, h, ho, hp]

end PluginEntry

end ProtocInvocation
