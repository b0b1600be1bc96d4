import ProtocInvocation.Proofs.Expansion.Settings
import ProtocInvocation.Proofs.Plugin.Collection

/-!
# The plugin table of an expansion

All vectors of a tree record into one table. What they assign is what their directives and explicit
plugin paths assign, in another order (`ExpansionTree.assignments_perm`), so the table collects all
of these (`ExpansionTree.collects_of_admits`). Inside a vector no directive is repeated; a directive
may be repeated in a later vector if it gave nothing (`ExpansionTree.pairwise_of_admits`).
-/

namespace ProtocInvocation

open scoped List

variable {registry : FlagRegistry} {before after : ExpansionContext}

namespace ArgumentVector

variable {v : ArgumentVector registry}

/-- The explicit plugin paths of a vector, in order. -/
def pluginPaths (v : ArgumentVector registry) : List String :=
  Shape.list.received (v.occurrences .pluginPathValues)

theorem own_pluginPathValues : v.own.settings.pluginPathValues = v.pluginPaths :=
  v.get_own_settings .pluginPathValues

theorem nodup_directives (h : ∀ fault, .error fault ∉ v.own.assignments) :
    (v.directives.map Directive.key).Nodup := by
  refine DirectiveLog.nodup_of_assignments fun fault hm => h fault ?_
  rw [OwnArguments.assignments, own_log]
  exact List.mem_append_left _ hm

theorem assignments_perm (h : ∀ fault, .error fault ∉ v.own.assignments) :
    v.own.assignments ~
      v.directives.flatMap Directive.assignments ++ v.pluginPaths.map pathAssignment := by
  rw [OwnArguments.assignments, own_pluginPathValues, own_log]
  exact (DirectiveLog.assignments_perm (nodup_directives h)).append_right _

/-- Every directive of a vector without a fault assigns to the part of its kind. -/
theorem exists_mem_own_assignments (h : ∀ fault, .error fault ∉ v.own.assignments) {d : Directive}
    (hd : d ∈ v.directives) : ∃ a, .ok a ∈ v.own.assignments ∧ a.plugin = d.plugin ∧
      a.part = d.kind.part ∧ a.given? = d.given? d.kind.part := by
  have hmem {x : Except Fault Assignment} (hx : x ∈ d.assignments) : x ∈ v.own.assignments :=
    (assignments_perm h).mem_iff.2
      (List.mem_append_left _ (List.mem_flatMap.2 ⟨d, hd, hx⟩))
  obtain ⟨a, hm, ha⟩ := Directive.exists_mem_assignments fun fault hm => h fault (hmem hm)
  exact ⟨a, hmem hm, ha⟩

end ArgumentVector

namespace ExpansionTree

variable {tree : ExpansionTree registry}

/-- The explicit plugin paths of all vectors of the tree, in order. -/
def pluginPaths (tree : ExpansionTree registry) : List String :=
  tree.vectors.flatMap ArgumentVector.pluginPaths

theorem error_notMem_own_assignments (h : ∀ fault, .error fault ∉ tree.assignments) :
    ∀ v ∈ tree.vectors, ∀ fault, .error fault ∉ v.own.assignments :=
  fun v hm fault he => h fault (List.mem_flatMap.2 ⟨v, hm, he⟩)

theorem assignments_perm (h : ∀ fault, .error fault ∉ tree.assignments) :
    tree.assignments ~
      tree.directives.flatMap Directive.assignments ++ tree.pluginPaths.map pathAssignment := by
  calc tree.assignments
    _ ~ tree.vectors.flatMap fun v =>
          v.directives.flatMap Directive.assignments ++ v.pluginPaths.map pathAssignment :=
        .flatMap_left _ fun v hm =>
          ArgumentVector.assignments_perm (error_notMem_own_assignments h v hm)
    _ ~ (tree.vectors.flatMap fun v => v.directives.flatMap Directive.assignments) ++
          tree.vectors.flatMap fun v => v.pluginPaths.map pathAssignment :=
        (List.flatMap_append_perm ..).symm
    _ = _ := by rw [directives, pluginPaths, List.flatMap_assoc, List.map_flatMap]

/-- The table of an accepted tree collects the directives and the paths of the tree. -/
theorem collects_of_admits
    (h : ExpansionContext.Admits default tree.references tree.assignments after) :
    after.plugins.Collects tree.directives tree.pluginPaths :=
  PluginTable.collects_of_record h.record_eq
    (assignments_perm (PluginTable.error_notMem_of_record h.record_eq))

/-- A directive that is followed by another of its plugin and kind gives nothing. -/
theorem pairwise_of_admits (h : before.Admits tree.references tree.assignments after) :
    tree.directives.Pairwise fun d e => d.key = e.key → d.given? d.kind.part = none := by
  have hfault := error_notMem_own_assignments (PluginTable.error_notMem_of_record h.record_eq)
  obtain ⟨_, _, hmade⟩ := PluginTable.exists_record_iff.1 ⟨_, h.record_eq⟩
  rw [assignments, List.pairwise_flatMap] at hmade
  rw [directives, List.pairwise_flatMap]
  constructor
  · intro v hv
    have hn := ArgumentVector.nodup_directives (hfault v hv)
    exact (List.pairwise_map.1 hn).imp fun hne he => absurd he hne
  · refine hmade.2.imp_of_mem fun {v w} hv hw hvw d hd e he hk => ?_
    obtain ⟨a, ha, hap, haq, hag⟩ := ArgumentVector.exists_mem_own_assignments (hfault v hv) hd
    obtain ⟨b, hb, hbp, hbq, _⟩ := ArgumentVector.exists_mem_own_assignments (hfault w hw) he
    obtain ⟨hp, hq⟩ := Prod.mk.inj hk
    rw [← hag]
    refine hvw _ ha _ hb a b rfl rfl ⟨?_, ?_⟩
    · rw [hap, hbp, hp]
    · rw [haq, hbq, hq]

end ExpansionTree

end ProtocInvocation
