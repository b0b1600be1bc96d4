import ProtocInvocation.Proofs.Expansion.Growth
import ProtocInvocation.Proofs.Expansion.Positionals

/-!
# Acceptance in an earlier context

A context with less in it refuses less: it has seen fewer paths and has values for fewer parts. So
two expansions of one vector from contexts of which one is within the other stay so related
(`ExpansionContext.Admits.of_within`). Main statement: `expands_of_within`.
-/

namespace ProtocInvocation

variable {files : FileSystem} {registry : FlagRegistry} {tokens : List String}

/-! ## Tables -/

namespace PluginTable

variable {table other otherAfter : PluginTable} {a : Assignment} {made : List Assignment}
  {assignments : List (Except Fault Assignment)}

theorem within_iff : table.Within other ↔
    (∀ plugin, (table.get? plugin).isSome → (other.get? plugin).isSome) ∧
      ∀ plugin part value, table.value? plugin part = some value →
        other.value? plugin part = some value := by
  constructor
  · intro h
    refine ⟨fun plugin hs => ?_, fun plugin part value hv => ?_⟩
    · obtain ⟨e, he⟩ := Option.isSome_iff_exists.1 hs
      obtain ⟨f, hf, _⟩ := h plugin e he
      exact Option.isSome_of_eq_some hf
    · cases he : table.get? plugin with
      | none =>
          rw [value?, entry, he] at hv
          cases PluginEntry.value?_blank.symm.trans hv
      | some e =>
          obtain ⟨f, hf, hef⟩ := h plugin e he
          rw [value?_of_get? he] at hv
          rw [value?_of_get? hf]
          exact PluginEntry.within_iff.1 hef part value hv
  · rintro ⟨hs, hv⟩ plugin e he
    obtain ⟨f, hf⟩ := Option.isSome_iff_exists.1 (hs plugin (Option.isSome_of_eq_some he))
    refine ⟨f, hf, PluginEntry.within_iff.2 fun part value hp => ?_⟩
    rw [← value?_of_get? he] at hp
    rw [← value?_of_get? hf]
    exact hv plugin part value hp

theorem exists_assign_of_within (h : table.Within other) (ha : other.assign a = .ok otherAfter) :
    ∃ after, table.assign a = .ok after ∧ after.Within otherAfter := by
  obtain ⟨hs, hv⟩ := within_iff.1 h
  have hfree : table.value? a.plugin a.part = none := by
    cases ht : table.value? a.plugin a.part with
    | none => rfl
    | some value => cases (hv _ _ _ ht).symm.trans (assign_eq_ok_iff.1 ha).1
  have hassign := assign_eq_ok_iff.2 ⟨hfree, rfl⟩
  refine ⟨_, hassign, within_iff.2 ⟨fun plugin hp => ?_, fun plugin part value hp => ?_⟩⟩
  · rw [isSome_get?_of_assign hassign] at hp
    rw [isSome_get?_of_assign ha]
    exact hp.imp id (hs plugin)
  · rw [value?_of_assign hassign] at hp
    rw [value?_of_assign ha]
    by_cases hsame : a.plugin = plugin ∧ a.part = part
    · rwa [if_pos hsame] at hp ⊢
    · rw [if_neg hsame] at hp ⊢
      exact hv plugin part value hp

theorem exists_foldlM_assign_of_within (h : table.Within other)
    (hr : made.foldlM assign other = .ok otherAfter) :
    ∃ after, made.foldlM assign table = .ok after ∧ after.Within otherAfter := by
  induction made generalizing table other with
  | nil =>
      obtain rfl : other = otherAfter := Except.ok.inj hr
      exact ⟨table, rfl, h⟩
  | cons a made ih =>
      obtain ⟨otherBetween, ha, hr⟩ := bind_eq_ok_iff.1 hr
      obtain ⟨between, hb, hw⟩ := exists_assign_of_within h ha
      obtain ⟨after, hr, hafter⟩ := ih hw hr
      exact ⟨after, bind_eq_ok_iff.2 ⟨between, hb, hr⟩, hafter⟩

theorem exists_record_of_within (h : table.Within other)
    (hr : other.record assignments = (.ok (), otherAfter)) :
    ∃ after, table.record assignments = (.ok (), after) ∧ after.Within otherAfter := by
  obtain ⟨made, rfl, hrun⟩ := record_eq_ok_iff.1 hr
  obtain ⟨after, hafter, hw⟩ := exists_foldlM_assign_of_within h hrun
  exact ⟨after, record_eq_ok_iff.2 ⟨made, rfl, hafter⟩, hw⟩

end PluginTable

/-! ## Contexts -/

namespace ExpansionContext

variable {before after smaller : ExpansionContext} {paths : List String}
  {assignments : List (Except Fault Assignment)}

theorem Admits.within (h : before.Admits paths assignments after) : before.Within after := by
  refine ⟨h.visited_eq ▸ List.subset_append_left _ _, ?_⟩
  have hr : before.plugins.Within (before.plugins.record assignments).2 :=
    PluginTable.within_record assignments
  rwa [h.record_eq] at hr

theorem Admits.of_within (hw : smaller.Within before) (h : before.Admits paths assignments after) :
    ∃ smallerAfter, smaller.Admits paths assignments smallerAfter ∧ smallerAfter.Within after := by
  obtain ⟨plugins, hr, hp⟩ := PluginTable.exists_record_of_within hw.plugins h.record_eq
  refine ⟨⟨smaller.visited ++ paths, plugins⟩, ⟨?_, h.nodup, rfl, hr⟩, ?_, hp⟩
  · exact fun path hm hs => h.notMem_visited path hm (hw.visited hs)
  · rw [h.visited_eq]
    exact List.append_subset.2 ⟨fun _ hm => List.mem_append_left _ (hw.visited hm),
      List.subset_append_right _ _⟩

end ExpansionContext

/-! ## Expansions -/

variable {before after : ExpansionContext} {e : Expansion}

theorem Expands.of_within {smaller : ExpansionContext} (hw : smaller.Within before)
    (h : Expands files registry tokens before (.ok e, after)) :
    ∃ smallerAfter, Expands files registry tokens smaller (.ok e, smallerAfter) ∧
      smallerAfter.Within after := by
  obtain ⟨tree, ht, hb, rfl⟩ := expands_ok_iff.1 h
  obtain ⟨smallerAfter, hs, hafter⟩ := hb.of_within hw
  exact ⟨smallerAfter, expands_ok_iff.2 ⟨tree, ht, hs, rfl⟩, hafter⟩

theorem Expands.exists_without {earlier later : List String} {path : String}
    (hv : ∀ spelling, Argument.classify registry earlier ≠ .error (.missingValue spelling))
    (h : Expands files registry (earlier ++ ("@" ++ path) :: later) before (.ok e, after)) :
    ∃ rest restAfter, Expands files registry (earlier ++ later) before (.ok rest, restAfter) ∧
      restAfter.Within after := by
  obtain ⟨tree, ht, hb, _⟩ := expands_ok_iff.1 h
  obtain ⟨b, c, d, _, hparts, hother⟩ := ht.exists_replaced ["@" ++ path] hv
    (List.forall_mem_singleton.2 (Argument.isDashed_reference path))
  obtain ⟨without, hwithout, _, hown, hrest⟩ := hother [] .done nofun .done
  rw [ExpansionTree.references_of_parts hparts, ExpansionTree.assignments_of_parts hparts] at hb
  obtain ⟨first, hfirst, hb⟩ := ExpansionContext.admits_append_iff.1 hb
  obtain ⟨second, hsecond, hb⟩ := ExpansionContext.admits_append_iff.1 hb
  -- what stands behind the reference is admitted without what the reference has left
  obtain ⟨restAfter, hb, hafter⟩ := hb.of_within hsecond.within
  refine ⟨_, restAfter, expands_ok_iff.2 ⟨without, hwithout, ?_, rfl⟩, hafter⟩
  rw [ExpansionTree.references_of_parts hrest, ExpansionTree.assignments_of_parts hrest, hown]
  exact ExpansionContext.admits_append_iff.2 ⟨first, hfirst, hb⟩

/-- An expansion that is accepted in a context is accepted with the same result in every context
within it, and the contexts stay so related. So what is accepted after other expansions, whatever
these ended with, is accepted without them, and what is accepted with a reference is accepted
without it. -/
theorem expands_of_within (h : Expands files registry tokens before (.ok e, after)) :
    (∀ smaller : ExpansionContext, smaller.Within before →
      ∃ smallerAfter, Expands files registry tokens smaller (.ok e, smallerAfter) ∧
        smallerAfter.Within after) ∧
    (∀ first vectors outcomes, ExpandsInTurn files registry first vectors outcomes →
      before ∈ first :: outcomes.map Prod.snd →
      ∃ firstAfter, Expands files registry tokens first (.ok e, firstAfter) ∧
        firstAfter.Within after) ∧
    ∀ earlier path later, tokens = earlier ++ ("@" ++ path) :: later →
      (∀ spelling, Argument.classify registry earlier ≠ .error (.missingValue spelling)) →
      ∃ rest restAfter, Expands files registry (earlier ++ later) before (.ok rest, restAfter) ∧
        restAfter.Within after := by
  refine ⟨fun smaller hw => h.of_within hw, fun first vectors outcomes ht hm => ?_, ?_⟩
  · rcases List.mem_cons.1 hm with rfl | hm
    · exact h.of_within (.refl _)
    · exact h.of_within (ht.within before hm)
  · rintro earlier path later rfl hv
    exact h.exists_without hv

/-- A reference is met after another expansion in the same context, and without that and without the
reference before it. -/
theorem expands_of_within_later :
    Expands (FileStore.ofAnswers [("f", .ok "--go_out=gen\na.proto"), ("g", .ok "--go_opt=x\n@h"),
        ("h", .ok "b.proto"), ("k", .ok "c.proto")]).toFileSystem .builtin ["@f", "-I", "@f", "@g"]
        ⟨["k"], ⟨[("ts", ⟨"dist", none, none⟩)], by decide⟩⟩
        (.ok ⟨{ includeDirPaths := ["@f"] }, ["a.proto", "b.proto"]⟩, ⟨["k", "f", "g", "h"],
          ⟨[("go", ⟨"gen", some "x", none⟩), ("ts", ⟨"dist", none, none⟩)], by decide⟩⟩) ∧
      (∃ firstAfter, Expands (FileStore.ofAnswers [("f", .ok "--go_out=gen\na.proto"),
          ("g", .ok "--go_opt=x\n@h"), ("h", .ok "b.proto"),
          ("k", .ok "c.proto")]).toFileSystem .builtin ["@f", "-I", "@f", "@g"] default
        (.ok ⟨{ includeDirPaths := ["@f"] }, ["a.proto", "b.proto"]⟩, firstAfter)) ∧
      ∃ rest restAfter, Expands (FileStore.ofAnswers [("f", .ok "--go_out=gen\na.proto"),
          ("g", .ok "--go_opt=x\n@h"), ("h", .ok "b.proto"),
          ("k", .ok "c.proto")]).toFileSystem .builtin ["-I", "@f", "@g"]
        ⟨["k"], ⟨[("ts", ⟨"dist", none, none⟩)], by decide⟩⟩ (.ok rest, restAfter) := by
  have h : Expands (FileStore.ofAnswers [("f", .ok "--go_out=gen\na.proto"),
      ("g", .ok "--go_opt=x\n@h"), ("h", .ok "b.proto"), ("k", .ok "c.proto")]).toFileSystem
      .builtin ["@f", "-I", "@f", "@g"] ⟨["k"], ⟨[("ts", ⟨"dist", none, none⟩)], by decide⟩⟩
      (.ok ⟨{ includeDirPaths := ["@f"] }, ["a.proto", "b.proto"]⟩, ⟨["k", "f", "g", "h"],
        ⟨[("go", ⟨"gen", some "x", none⟩), ("ts", ⟨"dist", none, none⟩)], by decide⟩⟩) :=
    expands_iff.2 (by decide +kernel)
  have hturn : ExpandsInTurn (FileStore.ofAnswers [("f", .ok "--go_out=gen\na.proto"),
      ("g", .ok "--go_opt=x\n@h"), ("h", .ok "b.proto"), ("k", .ok "c.proto")]).toFileSystem
      .builtin default [["--ts_out=dist", "@k"]] [(.ok ⟨{}, ["c.proto"]⟩,
        ⟨["k"], ⟨[("ts", ⟨"dist", none, none⟩)], by decide⟩⟩)] :=
    .next (expands_iff.2 (by decide +kernel)) .done
  obtain ⟨_, hfirst, hwithout⟩ := expands_of_within h
  obtain ⟨firstAfter, hf, _⟩ := hfirst _ _ _ hturn (by simp)
  obtain ⟨rest, restAfter, hr, _⟩ :=
    hwithout [] "f" ["-I", "@f", "@g"] rfl (fun _ he => by cases he)
  exact ⟨h, ⟨firstAfter, hf⟩, rest, restAfter, hr⟩

end ProtocInvocation
