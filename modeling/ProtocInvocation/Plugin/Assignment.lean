import ProtocInvocation.File.Path
import ProtocInvocation.Plugin.Log
import ProtocInvocation.Plugin.Table

/-!
# Assignments

An assignment gives one part of a plugin's entry a value. A part that has a value refuses another,
and an assignment that is refused leaves the table as it was. Assignments come from the directives
of a vector and from its explicit plugin paths, in order, where a malformed value stands as a
fault.
-/

namespace ProtocInvocation

/-- A value for one part of a plugin's entry. -/
structure Assignment where
  plugin : String
  part : PluginPart
  value : String
  deriving DecidableEq, Repr

namespace PluginTable

/-- The table after an assignment, unless the part has a value already. -/
def assign (table : PluginTable) (a : Assignment) : Except Fault PluginTable :=
  if (table.entry a.plugin).isTaken a.part then .error (a.part.duplicate a.plugin)
  else .ok (table.insert a.plugin ((table.entry a.plugin).assign a.value a.part))

/-- Makes assignments in order, up to the first that is refused or that is a fault itself. What was
assigned before it stays. -/
def record (table : PluginTable) :
    List (Except Fault Assignment) → Except Fault Unit × PluginTable
  | [] => (.ok (), table)
  | .error fault :: _ => (.error fault, table)
  | .ok a :: later =>
    match table.assign a with
    | .error fault => (.error fault, table)
    | .ok table => table.record later

end PluginTable

/-! ## What directives assign -/

/-- Parts the value of an output directive at its only colon into options, unless they are empty,
and an output location. -/
def splitOut (plugin value : String) : Except Fault (Option String × String) :=
  match Text.pieces ':' value with
  | [out] => .ok (none, out)
  | [opt, out] => .ok (if opt = "" then none else some opt, out)
  | _ => .error (.ambiguousOut plugin value)

/-- What an output directive assigns: the location, then the options before the colon. -/
def outAssignments (plugin value : String) : List (Except Fault Assignment) :=
  match splitOut plugin value with
  | .error fault => [.error fault]
  | .ok (none, out) => [.ok ⟨plugin, .out, out⟩]
  | .ok (some opt, out) => [.ok ⟨plugin, .out, out⟩, .ok ⟨plugin, .opt, opt⟩]

namespace DirectiveLog

/-- What the log assigns to a plugin by the values at its places, its output location first. -/
def assignmentsOf (log : DirectiveLog) (plugin : String) (places : DirectivePlaces) :
    List (Except Fault Assignment) :=
  (places.out.bind log.value?).elim [] (outAssignments plugin) ++
    (places.opt.bind log.value?).elim [] fun opt => [.ok ⟨plugin, .opt, opt⟩]

/-- What the log assigns, plugin by plugin. A log with a repeated directive assigns nothing. -/
def assignments (log : DirectiveLog) : List (Except Fault Assignment) :=
  match log.firstRepeat? with
  | some (plugin, kind) => [.error (kind.part.duplicate plugin)]
  | none => log.entries.flatMap fun (plugin, places) => log.assignmentsOf plugin places

end DirectiveLog

/-! ## What paths assign -/

/-- The name of the executable that an explicit plugin path stands for, and its path. The name comes
before an equals sign, or else it is the last name of the path. -/
def namedPath (value : String) : String × String :=
  match Text.cut '=' value with
  | (name, some path) => (name, path)
  | (_, none) => ((Path.baseName? value).getD value, value)

/-- What an explicit plugin path assigns. The name of the executable gives that of the plugin. -/
def pathAssignment (value : String) : Except Fault Assignment :=
  if value = "" then .error .emptyPluginPath
  else
    match Text.dropLead? executableLead (namedPath value).1 with
    | some plugin => .ok ⟨plugin, .path, (namedPath value).2⟩
    | none => .error (.notPluginName (namedPath value).1)

end ProtocInvocation
