import Mathlib.Control.Monad.Basic
import ProtocInvocation.Proofs.Expansion.Outcome
import ProtocInvocation.Proofs.Settings.Binding

/-!
# The settings of an expansion

An expansion merges settings from the leaves of its tree upwards: what an argument file comes to
joins the vector that refers to it. Main statement: `settings_of_expands`. The result is a fold over
the vectors of the tree in order, so the place of a reference in its vector does not matter, and
each slot is made of the occurrences of its own flag.
-/

namespace ProtocInvocation

variable {files : FileSystem} {registry : FlagRegistry} {tokens : List String}
  {before after : ExpansionContext}

/-- The values with which the flags of a vector set `field`, in order. -/
def ArgumentVector.occurrences (v : ArgumentVector registry) (field : Field) :
    List (Option String) :=
  v.arguments.filterMap (Argument.occurrence? field)

theorem ArgumentVector.get_own_settings (v : ArgumentVector registry) (f : Field) :
    v.own.settings.get f = f.shape.received (v.occurrences f) :=
  get_of_foldlM_bind v.foldlM_bind

theorem Settings.foldl_merge_append (earlier later : List Settings) :
    (earlier ++ later).foldl merge default =
      (earlier.foldl merge default).merge (later.foldl merge default) := by
  rw [List.foldl_append, foldl_merge]

theorem Branches.settings_expansion (branches : Branches registry) :
    branches.expansion.settings =
      (branches.vectors.map fun v => v.own.settings).foldl Settings.merge default := by
  induction branches with
  | done => rfl
  | file path later ih =>
      calc (default : Settings).merge later.expansion.settings
        _ = later.expansion.settings := Settings.default_merge _
        _ = _ := ih
  | reference path vector nested later ihn ihl =>
      -- what is nested is merged first in the expansion, and last in the fold
      calc (vector.own.settings.merge nested.expansion.settings).merge later.expansion.settings
        _ = vector.own.settings.merge
              (nested.expansion.settings.merge later.expansion.settings) :=
            Settings.merge_assoc _ _ _
        _ = vector.own.settings.merge (((nested.vectors ++ later.vectors).map
              fun v => v.own.settings).foldl Settings.merge default) := by
            rw [ihn, ihl, List.map_append, Settings.foldl_merge_append]
        _ = _ := by
            rw [vectors, List.map_cons, List.foldl_cons, Settings.default_merge,
              ← Settings.foldl_merge]

theorem ExpansionTree.settings_expansion (tree : ExpansionTree registry) :
    tree.expansion.settings =
      (tree.vectors.map fun v => v.own.settings).foldl Settings.merge default := by
  calc tree.root.own.settings.merge tree.branches.expansion.settings
    _ = tree.root.own.settings.merge
          ((tree.branches.vectors.map fun v => v.own.settings).foldl Settings.merge default) := by
        rw [tree.branches.settings_expansion]
    _ = _ := by
        rw [vectors, List.map_cons, List.foldl_cons, Settings.default_merge, ← Settings.foldl_merge]

theorem ExpansionTree.get_settings_expansion (tree : ExpansionTree registry) (f : Field) :
    tree.expansion.settings.get f =
      f.shape.overall (tree.vectors.map fun v => f.shape.received (v.occurrences f)) := by
  rw [tree.settings_expansion, Settings.get_foldl_merge_default, List.map_map]
  exact congrArg f.shape.overall (List.map_congr_left fun v _ => v.get_own_settings f)

/-- The settings of an accepted expansion are the own settings of the vectors of its tree merged one
after another, where a vector's own settings come from its own flags alone. So a list holds the own
values of a vector before those of the files below it; a truth value is true if the last own
occurrence in some vector says so; a text is the last own one that is not empty. -/
theorem settings_of_expands {e : Expansion}
    (h : Expands files registry tokens before (.ok e, after)) :
    ∃ tree : ExpansionTree registry, tree.IsOf files tokens ∧
      (∀ v ∈ tree.vectors, v.arguments.foldlM Argument.bind default = .ok v.own.settings) ∧
      e.settings = (tree.vectors.map fun v => v.own.settings).foldl Settings.merge default ∧
      ∀ f : Field, e.settings.get f =
        f.shape.overall (tree.vectors.map fun v => f.shape.received (v.occurrences f)) := by
  obtain ⟨tree, ht, _, rfl⟩ := expands_ok_iff.1 h
  refine ⟨tree, ht, fun v _ => v.foldlM_bind, tree.settings_expansion, fun f => ?_⟩
  rw [tree.settings_expansion, Settings.get_foldl_merge_default, List.map_map]
  exact congrArg f.shape.overall (List.map_congr_left fun v _ => v.get_own_settings f)

/-- A vector's own values come before those of the files below it. -/
theorem settings_of_expands_nested :
    Expands (FileStore.ofAnswers [("f", .ok "-Ib\n--include_imports=false\n@g"),
        ("g", .ok "-Ic,d\na.proto")]).toFileSystem .builtin ["@f", "-Ia", "--include_imports"]
      default (.ok ⟨{ includeDirPaths := ["a", "b", "c", "d"], includeImports := true }, ["a.proto"]⟩,
        ⟨["f", "g"], default⟩) ∧
      ∃ tree : ExpansionTree .builtin,
        tree.IsOf (FileStore.ofAnswers [("f", .ok "-Ib\n--include_imports=false\n@g"),
          ("g", .ok "-Ic,d\na.proto")]).toFileSystem ["@f", "-Ia", "--include_imports"] ∧
        ["a", "b", "c", "d"] = (tree.vectors.map fun v =>
          Shape.list.received (v.occurrences .includeDirPaths)).flatten := by
  have h : Expands (FileStore.ofAnswers [("f", .ok "-Ib\n--include_imports=false\n@g"),
      ("g", .ok "-Ic,d\na.proto")]).toFileSystem .builtin ["@f", "-Ia", "--include_imports"] default
      (.ok ⟨{ includeDirPaths := ["a", "b", "c", "d"], includeImports := true }, ["a.proto"]⟩,
        ⟨["f", "g"], default⟩) := expands_iff.2 (by decide +kernel)
  obtain ⟨tree, ht, _, _, hs⟩ := settings_of_expands h
  exact ⟨h, tree, ht, hs .includeDirPaths⟩

end ProtocInvocation
