/-!
# Plugin directives

A directive names a plugin and says where it writes or what options it gets.
-/

namespace ProtocInvocation

/-- What a directive says of its plugin. -/
inductive DirectiveKind where
  /-- Where the plugin writes. -/
  | out
  /-- What options the plugin gets. -/
  | opt
  deriving DecidableEq, Repr

namespace DirectiveKind

/-- The end of a flag name that makes it a directive of this kind. -/
def tail : DirectiveKind → String
  | .out => "_out"
  | .opt => "_opt"

end DirectiveKind

/-- One directive as given: its value is taken whole. -/
structure Directive where
  plugin : String
  kind : DirectiveKind
  value : String
  deriving DecidableEq, Repr

/-- The plugin and the kind of a directive. -/
def Directive.key (d : Directive) : String × DirectiveKind :=
  (d.plugin, d.kind)

end ProtocInvocation
