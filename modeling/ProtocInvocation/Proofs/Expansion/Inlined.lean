import ProtocInvocation.Proofs.Expansion.Positionals

/-!
# Argument files in place

An argument file that says nothing but positional arguments adds no vector of its own to what an
expansion gives, so these can stand where the reference to it stood. Main statement:
`expands_inlined`. One path fewer is visited then, and the rest of the context is the same.
-/

namespace ProtocInvocation

open scoped List

variable {files : FileSystem} {registry : FlagRegistry} {earlier lines later : List String}
  {before after : ExpansionContext} {path : String}

theorem ExpansionContext.Admits.of_sublist {paths fewer : List String}
    {assignments : List (Except Fault Assignment)} (hs : fewer <+ paths)
    (h : before.Admits paths assignments after) :
    before.Admits fewer assignments ⟨before.visited ++ fewer, after.plugins⟩ where
  notMem_visited path hm := h.notMem_visited path (hs.subset hm)
  nodup := h.nodup.sublist hs
  visited_eq := rfl
  record_eq := h.record_eq

/-! ## Trees of positional tokens -/

namespace ExpansionTree

variable {tree : ExpansionTree registry}

theorem IsOf.own_eq (h : tree.IsOf files lines)
    (hl : ∀ line ∈ lines, Argument.isDashed line = false) :
    tree.root.own = ⟨default, .empty, lines⟩ := by
  have hread := tree.root.read_tokens
  rw [h.tokens_eq, OwnArguments.read_positionals hl] at hread
  exact (Except.ok.inj hread).symm

theorem IsOf.assignments_eq_branches (h : tree.IsOf files lines)
    (hl : ∀ line ∈ lines, Argument.isDashed line = false) :
    tree.assignments = tree.branches.assignments := by
  rw [assignments_eq, h.own_eq hl]
  rfl

theorem IsOf.expansion_eq_branches (h : tree.IsOf files lines)
    (hl : ∀ line ∈ lines, Argument.isDashed line = false) :
    tree.expansion = tree.branches.expansion := by
  rw [expansion, h.own_eq hl]
  exact Expansion.default_append _

theorem expansion_below : (tree.below path).expansion = tree.expansion :=
  Expansion.append_default

end ExpansionTree

/-! ## In place of a reference -/

/-- The arguments in a file, if all are positional, can stand in place of a reference to the file:
an accepted vector is accepted with the same settings, files to compile and plugins. -/
theorem expands_inlined {e : Expansion}
    (hv : ∀ spelling, Argument.classify registry earlier ≠ .error (.missingValue spelling))
    (hr : readArgumentFile files path = .ok lines)
    (hl : ∀ line ∈ lines, Argument.isDashed line = false)
    (h : Expands files registry (earlier ++ ("@" ++ path) :: later) before (.ok e, after)) :
    ∃ after', Expands files registry (earlier ++ (lines ++ later)) before (.ok e, after') ∧
      after'.plugins = after.plugins := by
  obtain ⟨tree, ht, hb, rfl⟩ := expands_ok_iff.1 h
  obtain ⟨b, _, d, hc, hparts, hother⟩ := ht.exists_replaced ["@" ++ path] hv
    (List.forall_mem_singleton.2 (Argument.isDashed_reference path))
  obtain ⟨file, ⟨lines', hr', hfile⟩, rfl⟩ := ExpansionTree.exists_below_of_unfold hc
  obtain rfl : lines = lines' := Except.ok.inj (hr.symm.trans hr')
  have hunfold := hfile.unfold
  rw [hfile.own_eq hl] at hunfold
  obtain ⟨inlined, hinlined, hsettings, hown, hinparts⟩ := hother lines file.branches hl hunfold
  -- the reference itself is gone, and those in its file stay
  have hreferences : inlined.references <+ tree.references := by
    rw [ExpansionTree.references_of_parts hinparts, ExpansionTree.references_of_parts hparts,
      ExpansionTree.references_below]
    exact ((List.sublist_cons_self _ _).append_right _).append_left _
  have hassignments : inlined.assignments = tree.assignments := by
    rw [ExpansionTree.assignments_of_parts hinparts, ExpansionTree.assignments_of_parts hparts,
      ExpansionTree.assignments_below, hfile.assignments_eq_branches hl, hown]
  have hexpansion : inlined.expansion = tree.expansion := by
    rw [ExpansionTree.expansion_of_parts hinparts, ExpansionTree.expansion_of_parts hparts,
      ExpansionTree.expansion_below, hfile.expansion_eq_branches hl, hsettings]
  refine ⟨⟨before.visited ++ inlined.references, after.plugins⟩,
    expands_ok_iff.2 ⟨inlined, hinlined, ?_, hexpansion.symm⟩, rfl⟩
  rw [hassignments]
  exact hb.of_sublist hreferences

/-- Behind the end of flags, with a reference and a lone dash in the file. -/
theorem expands_inlined_nested :
    Expands (FileStore.ofAnswers [("f", .ok "a.proto\n@g\n-\n"),
        ("g", .ok "-Ib\n--go_out=gen\nb.proto")]).toFileSystem .builtin
        (["-Ia", "--"] ++ ("@" ++ "f") :: ["--x"]) default
        (.ok ⟨{ includeDirPaths := ["a", "b"] }, ["a.proto", "b.proto", "-", "--x"]⟩,
          ⟨["f", "g"], ⟨[("go", ⟨"gen", none, none⟩)], by decide⟩⟩) ∧
      ∃ after, Expands (FileStore.ofAnswers [("f", .ok "a.proto\n@g\n-\n"),
          ("g", .ok "-Ib\n--go_out=gen\nb.proto")]).toFileSystem .builtin
        (["-Ia", "--"] ++ (["a.proto", "@g", "-"] ++ ["--x"])) default
        (.ok ⟨{ includeDirPaths := ["a", "b"] }, ["a.proto", "b.proto", "-", "--x"]⟩, after) ∧
        after.plugins = ⟨[("go", ⟨"gen", none, none⟩)], by decide⟩ := by
  have h : Expands (FileStore.ofAnswers [("f", .ok "a.proto\n@g\n-\n"),
      ("g", .ok "-Ib\n--go_out=gen\nb.proto")]).toFileSystem .builtin
      (["-Ia", "--"] ++ ("@" ++ "f") :: ["--x"]) default
      (.ok ⟨{ includeDirPaths := ["a", "b"] }, ["a.proto", "b.proto", "-", "--x"]⟩,
        ⟨["f", "g"], ⟨[("go", ⟨"gen", none, none⟩)], by decide⟩⟩) :=
    expands_iff.2 (by decide +kernel)
  have hread : Argument.classify .builtin ["-Ia", "--"] =
      .ok [.flag .includeDirPaths "-I" (some "a")] := by decide +kernel
  have hlines : readArgumentFile (FileStore.ofAnswers [("f", .ok "a.proto\n@g\n-\n"),
      ("g", .ok "-Ib\n--go_out=gen\nb.proto")]).toFileSystem "f" = .ok ["a.proto", "@g", "-"] := by
    decide +kernel
  exact ⟨h, expands_inlined (fun _ he => by cases hread.symm.trans he) hlines (by decide) h⟩

end ProtocInvocation
