import ProtocInvocation.Proofs.Expansion.Plugins
import ProtocInvocation.Proofs.Plugin.Order

/-!
# The explicit plugin paths of an expansion

Explicit plugin paths are kept twice: as values in the settings, which every vector takes over from
those below it, and as the paths of entries in the table, which each vector assigns once for itself.
Main statement: `pluginPaths_of_expands`. What is taken over is not assigned again, so assigning the
values of the merged settings comes to the same paths.
-/

namespace ProtocInvocation

variable {files : FileSystem} {registry : FlagRegistry} {tokens : List String}
  {before after : ExpansionContext}

/-! ## Assignments of paths -/

theorem DirectiveLog.filter_isTo_path (log : DirectiveLog) :
    log.assignments.filter (Assignment.isTo .path) = [] := by
  refine List.filter_eq_nil_iff.2 fun x hx hp => ?_
  cases x with
  | error fault => cases hp
  | ok a => exact part_ne_path hx (of_decide_eq_true hp)

theorem filter_isTo_path_pathAssignment {values : List String}
    (h : ∀ fault, .error fault ∉ values.map pathAssignment) :
    (values.map pathAssignment).filter (Assignment.isTo .path) = values.map pathAssignment := by
  refine List.filter_eq_self.2 fun x hx => ?_
  cases x with
  | error fault => exact absurd hx (h fault)
  | ok a =>
      obtain ⟨value, _, ha⟩ := List.mem_map.1 hx
      rw [(eq_of_pathAssignment ha).2]
      rfl

theorem ArgumentVector.filter_isTo_path {v : ArgumentVector registry}
    (h : ∀ fault, .error fault ∉ v.own.assignments) :
    v.own.assignments.filter (Assignment.isTo .path) = v.pluginPaths.map pathAssignment := by
  rw [OwnArguments.assignments, own_pluginPathValues] at h ⊢
  rw [List.filter_append, DirectiveLog.filter_isTo_path, List.nil_append]
  exact filter_isTo_path_pathAssignment fun fault hm => h fault (List.mem_append_right _ hm)

namespace ExpansionTree

variable {tree : ExpansionTree registry}

/-- Of all that a tree assigns, paths are assigned by its explicit plugin paths, in order. -/
theorem filter_isTo_path (h : ∀ fault, .error fault ∉ tree.assignments) :
    tree.assignments.filter (Assignment.isTo .path) = tree.pluginPaths.map pathAssignment := by
  rw [assignments, List.filter_flatMap, pluginPaths, List.map_flatMap]
  exact List.flatMap_congr fun v hm =>
    ArgumentVector.filter_isTo_path (error_notMem_own_assignments h v hm)

/-- The merged settings hold each explicit plugin path of the tree once. -/
theorem pluginPathValues_expansion :
    tree.expansion.settings.pluginPathValues = tree.pluginPaths :=
  tree.get_settings_expansion .pluginPathValues

end ExpansionTree

/-! ## Accepted expansions -/

/-- The explicit plugin paths in the settings of an accepted expansion are those of its tree, each
of which was resolved once. Resolved again, all from the merged settings and from the table at the
start, they give every plugin the path that it has in the end. -/
theorem pluginPaths_of_expands {e : Expansion}
    (h : Expands files registry tokens before (.ok e, after)) :
    ∃ tree : ExpansionTree registry, tree.IsOf files tokens ∧
      before.plugins.record tree.assignments = (.ok (), after.plugins) ∧
      e.settings.pluginPathValues = tree.pluginPaths ∧
      tree.assignments.filter (Assignment.isTo .path) = tree.pluginPaths.map pathAssignment ∧
      ∃ resolved, before.plugins.record (e.settings.pluginPathValues.map pathAssignment) =
        (.ok (), resolved) ∧
          ∀ plugin, (resolved.entry plugin).path = (after.plugins.entry plugin).path := by
  obtain ⟨tree, ht, hb, rfl⟩ := expands_ok_iff.1 h
  have hpaths := ExpansionTree.filter_isTo_path (PluginTable.error_notMem_of_record hb.record_eq)
  obtain ⟨resolved, hr, hsame⟩ := PluginTable.exists_record_filter_isTo hb.record_eq .path
  rw [hpaths, ← ExpansionTree.pluginPathValues_expansion] at hr
  exact ⟨tree, ht, hb.record_eq, ExpansionTree.pluginPathValues_expansion, hpaths, resolved, hr,
    hsame⟩

/-- Paths of a vector and of two files below each other, one by the name of its executable and one
empty, in a context that has a path already. -/
theorem pluginPaths_of_expands_nested :
    Expands (FileStore.ofAnswers [("f", .ok "--plugin=/bin/protoc-gen-ts\n@g"),
        ("g", .ok "--plugin=protoc-gen-rs=\n--go_out=gen")]).toFileSystem .builtin
        ["@f", "--plugin=protoc-gen-go=a=b", "a.proto"]
        ⟨["h"], ⟨[("py", ⟨"py", none, some "/py"⟩)], by decide⟩⟩
        (.ok ⟨{ pluginPathValues := ["protoc-gen-go=a=b", "/bin/protoc-gen-ts", "protoc-gen-rs="] },
          ["a.proto"]⟩,
          ⟨["h", "f", "g"], ⟨[("go", ⟨"gen", none, some "a=b"⟩), ("py", ⟨"py", none, some "/py"⟩),
            ("rs", ⟨"", none, some ""⟩), ("ts", ⟨"", none, some "/bin/protoc-gen-ts"⟩)],
            by decide⟩⟩) ∧
      ∃ resolved, PluginTable.record ⟨[("py", ⟨"py", none, some "/py"⟩)], by decide⟩
        (["protoc-gen-go=a=b", "/bin/protoc-gen-ts", "protoc-gen-rs="].map pathAssignment) =
          (.ok (), resolved) ∧
        (resolved.entry "go").path = some "a=b" ∧ (resolved.entry "py").path = some "/py" ∧
        (resolved.entry "rs").path = some "" ∧
        (resolved.entry "ts").path = some "/bin/protoc-gen-ts" := by
  have h : Expands (FileStore.ofAnswers [("f", .ok "--plugin=/bin/protoc-gen-ts\n@g"),
      ("g", .ok "--plugin=protoc-gen-rs=\n--go_out=gen")]).toFileSystem .builtin
      ["@f", "--plugin=protoc-gen-go=a=b", "a.proto"]
      ⟨["h"], ⟨[("py", ⟨"py", none, some "/py"⟩)], by decide⟩⟩
      (.ok ⟨{ pluginPathValues := ["protoc-gen-go=a=b", "/bin/protoc-gen-ts", "protoc-gen-rs="] },
        ["a.proto"]⟩,
        ⟨["h", "f", "g"], ⟨[("go", ⟨"gen", none, some "a=b"⟩), ("py", ⟨"py", none, some "/py"⟩),
          ("rs", ⟨"", none, some ""⟩), ("ts", ⟨"", none, some "/bin/protoc-gen-ts"⟩)],
          by decide⟩⟩) :=
    expands_iff.2 (by decide +kernel)
  obtain ⟨_, _, _, _, _, resolved, hr, hsame⟩ := pluginPaths_of_expands h
  exact ⟨h, resolved, hr, hsame "go", hsame "py", hsame "rs", hsame "ts"⟩

end ProtocInvocation
