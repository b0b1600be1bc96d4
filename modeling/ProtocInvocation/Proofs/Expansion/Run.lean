import ProtocInvocation.Expansion.Bound
import ProtocInvocation.Proofs.Expansion.Tree
import ProtocInvocation.Proofs.Plugin.Recording

/-!
# Runs of an expansion

An expansion that ends, ends alike at every greater depth (`Expands.unique`), and in a file store it
is what `expand` gives (`expands_iff`). It ends well exactly if the vector has an expansion tree
whose references are new and whose assignments fit into the table, in the order of the tree
(`expands_ok_iff`). So what an accepted expansion gives can be read off its tree.
-/

namespace ProtocInvocation

variable {α β : Type} {files : FileSystem} {registry : FlagRegistry} {tokens : List String}
  {before between after : ExpansionContext}

/-! ## Joining expansions -/

namespace Expansion

variable {e : Expansion}

theorem ext {f : Expansion} (hs : e.settings = f.settings) (hp : e.filePaths = f.filePaths) :
    e = f := by
  obtain ⟨settings, filePaths⟩ := e
  obtain rfl : settings = f.settings := hs
  obtain rfl : filePaths = f.filePaths := hp
  rfl

theorem append_assoc (e f g : Expansion) : e ++ f ++ g = e ++ (f ++ g) :=
  ext (Settings.merge_assoc e.settings f.settings g.settings)
    (List.append_assoc e.filePaths f.filePaths g.filePaths)

theorem append_default : e ++ default = e :=
  ext (Settings.merge_default e.settings) (List.append_nil e.filePaths)

theorem default_append (e : Expansion) : default ++ e = e :=
  ext (Settings.default_merge e.settings) (List.nil_append e.filePaths)

end Expansion

/-! ## What a context admits -/

/-- References to `paths` and `assignments` go through from `before` on, and leave `after`. -/
structure ExpansionContext.Admits (before : ExpansionContext) (paths : List String)
    (assignments : List (Except Fault Assignment)) (after : ExpansionContext) : Prop where
  notMem_visited : ∀ path ∈ paths, path ∉ before.visited
  nodup : paths.Nodup
  visited_eq : after.visited = before.visited ++ paths
  record_eq : before.plugins.record assignments = (.ok (), after.plugins)

namespace ExpansionContext

variable {path : String} {paths later : List String} {as bs : List (Except Fault Assignment)}

theorem admits_nil_iff : before.Admits [] [] after ↔ before = after := by
  constructor
  · rintro ⟨_, _, hv, hr⟩
    obtain ⟨visited, plugins⟩ := before
    obtain ⟨visited', plugins'⟩ := after
    obtain rfl : plugins = plugins' := congrArg Prod.snd hr
    simpa using hv.symm
  · rintro rfl
    exact ⟨by simp, .nil, by simp, rfl⟩

theorem admits_append_iff : before.Admits (paths ++ later) (as ++ bs) after ↔
    ∃ between, before.Admits paths as between ∧ between.Admits later bs after := by
  constructor
  · rintro ⟨hm, hn, hv, hr⟩
    obtain ⟨plugins, ha, hb⟩ := PluginTable.record_append_eq_ok_iff.1 hr
    obtain ⟨hp, hl, hd⟩ := List.nodup_append.1 hn
    refine ⟨⟨before.visited ++ paths, plugins⟩, ⟨?_, hp, rfl, ha⟩, ⟨?_, hl, ?_, hb⟩⟩
    · exact fun path h => hm path (List.mem_append_left _ h)
    · intro path h hc
      rcases List.mem_append.1 hc with hc | hc
      · exact hm path (List.mem_append_right _ h) hc
      · exact hd path hc path h rfl
    · rw [hv, List.append_assoc]
  · rintro ⟨between, ⟨hm, hp, hv, ha⟩, ⟨hm', hl, hv', hb⟩⟩
    refine ⟨?_, List.nodup_append.2 ⟨hp, hl, ?_⟩, ?_,
      PluginTable.record_append_eq_ok_iff.2 ⟨_, ha, hb⟩⟩
    · intro path h hc
      rcases List.mem_append.1 h with h | h
      · exact hm path h hc
      · exact hm' path h (hv ▸ List.mem_append_left _ hc)
    · rintro path h _ h' rfl
      exact hm' path h' (hv ▸ List.mem_append_right _ h)
    · rw [hv', hv, List.append_assoc]

theorem admits_assignments_iff :
    before.Admits [] as after ↔ (Expanding.record as).run.run before = some (.ok (), after) := by
  rw [Expanding.run_record]
  constructor
  · rintro ⟨_, _, hv, hr⟩
    rw [List.append_nil] at hv
    rw [hr, ← hv]
  · intro h
    simp only [Option.some.injEq, Prod.mk.injEq] at h
    obtain ⟨hr, rfl⟩ := h
    exact ⟨by simp, .nil, by simp, Prod.ext hr rfl⟩

theorem admits_path_iff :
    before.Admits [path] [] after ↔
      (Expanding.visit path).run.run before = some (.ok (), after) := by
  rw [Expanding.run_visit]
  constructor
  · rintro ⟨hm, _, hv, hr⟩
    have hp : before.plugins = after.plugins := congrArg Prod.snd hr
    rw [if_neg (hm path (by simp)), ← hv, hp]
  · intro h
    split at h
    · simp at h
    · rename_i hm
      simp only [Option.some.injEq, Prod.mk.injEq, true_and] at h
      subst h
      exact ⟨by simpa using hm, by simp, rfl, rfl⟩

end ExpansionContext

/-! ## Steps in turn -/

namespace Expanding

/-- Two steps in turn end with the fault of the first, or as the second ends in the context that the
first leaves. -/
theorem run_bind_eq_some_iff {step : Expanding α} {next : α → Expanding β}
    {outcome : Except Fault β × ExpansionContext} :
    (step >>= next).run.run before = some outcome ↔
      (∃ fault between, step.run.run before = some (.error fault, between) ∧
        outcome = (.error fault, between)) ∨
      ∃ a between, step.run.run before = some (.ok a, between) ∧
        (next a).run.run between = some outcome := by
  rw [ExceptT.run_bind, StateT.run_bind]
  rcases step.run.run before with _ | ⟨fault | a, between⟩
  · simp
  · constructor
    · intro h
      exact .inl ⟨fault, between, rfl, (Option.some.inj h).symm⟩
    · rintro (⟨_, _, h, rfl⟩ | ⟨_, _, h, _⟩)
      · cases h
        rfl
      · cases h
  · constructor
    · intro h
      exact .inr ⟨a, between, rfl, h⟩
    · rintro (⟨_, _, h, _⟩ | ⟨_, _, h, hn⟩)
      · cases h
      · cases h
        exact hn

theorem run_bind_eq_ok_iff {step : Expanding α} {next : α → Expanding β} {b : β} :
    (step >>= next).run.run before = some (.ok b, after) ↔
      ∃ a between, step.run.run before = some (.ok a, between) ∧
        (next a).run.run between = some (.ok b, after) := by
  rw [run_bind_eq_some_iff]
  simp

theorem run_map_eq_ok_iff {step : Expanding α} {f : α → β} {b : β} :
    (f <$> step).run.run before = some (.ok b, after) ↔
      ∃ a, step.run.run before = some (.ok a, after) ∧ f a = b := by
  rw [map_eq_pure_bind, run_bind_eq_ok_iff]
  simp

theorem run_bind_eq_error_iff {step : Expanding α} {next : α → Expanding β} {fault : Fault} :
    (step >>= next).run.run before = some (.error fault, after) ↔
      step.run.run before = some (.error fault, after) ∨
        ∃ a between, step.run.run before = some (.ok a, between) ∧
          (next a).run.run between = some (.error fault, after) := by
  rw [run_bind_eq_some_iff]
  refine or_congr_left ⟨?_, fun h => ⟨fault, after, h, rfl⟩⟩
  rintro ⟨_, _, h, he⟩
  cases he
  exact h

theorem run_map_eq_error_iff {step : Expanding α} {f : α → β} {fault : Fault} :
    (f <$> step).run.run before = some (.error fault, after) ↔
      step.run.run before = some (.error fault, after) := by
  rw [map_eq_pure_bind, run_bind_eq_error_iff]
  simp

end Expanding

theorem expandWithin_succ {own : OwnArguments} {depth : Nat}
    (h : OwnArguments.read registry tokens = .ok own) :
    expandWithin files registry (depth + 1) tokens = Expanding.record own.assignments >>= fun _ =>
      own.positionals.foldlM (fun e argument =>
        (e ++ ·) <$> expandPositional files (expandWithin files registry depth) argument)
        { settings := own.settings } := by
  rw [expandWithin, h, Expanding.ofExcept_ok_bind]

/-! ## Trees of expansions that end well -/

section Trees

variable {nested : List String → Expanding Expansion} {depth : Nat} {e : Expansion}

/-- The vectors that `nested` expands within `depth` are those with a tree of that depth that the
context admits, and it gives what the tree gives. -/
def ExpandsTrees (files : FileSystem) (registry : FlagRegistry) (depth : Nat)
    (nested : List String → Expanding Expansion) : Prop :=
  ∀ tokens before after e, (nested tokens).run.run before = some (.ok e, after) ↔
    ∃ tree : ExpansionTree registry, tree.IsOf files tokens ∧ tree.branches.depth < depth ∧
      before.Admits tree.references tree.assignments after ∧ e = tree.expansion

theorem ne_empty_of_reference? {argument path : String} (h : reference? argument = some path) :
    argument ≠ "" := by
  rintro rfl
  have := congrArg String.toList (Text.dropLead?_eq_some_iff.1 h)
  simp at this

/-- A positional argument gives a file to compile or what stands below it in a tree. -/
theorem run_expandPositional_eq_ok_iff (hn : ExpandsTrees files registry depth nested)
    {argument : String} :
    (expandPositional files nested argument).run.run before = some (.ok e, after) ↔
      (argument ≠ "" ∧ reference? argument = none ∧ before = after ∧
        e = { filePaths := [argument] }) ∨
      ∃ path, ∃ tree : ExpansionTree registry, reference? argument = some path ∧
        readArgumentFile files path = .ok tree.root.tokens ∧
        Branches.Unfold files tree.root.own.positionals tree.branches ∧
        tree.branches.depth < depth ∧
        before.Admits (path :: tree.references) tree.assignments after ∧ e = tree.expansion := by
  by_cases ha : argument = ""
  · subst ha
    simp only [expandPositional, if_true, Expanding.run_ofExcept]
    constructor
    · intro h
      simp at h
    · rintro (⟨h, _⟩ | ⟨path, _, hr, _⟩)
      · exact absurd rfl h
      · exact absurd rfl (ne_empty_of_reference? hr)
  cases hr : reference? argument with
  | none => simp [expandPositional, ha, hr, eq_comm, and_comm]
  | some path =>
      simp only [expandPositional, if_neg ha, hr]
      rw [Expanding.run_bind_eq_ok_iff]
      constructor
      · rintro ⟨_, between, hv, h⟩
        cases ht : readArgumentFile files path with
        | error fault => simp [ht] at h
        | ok lines =>
            rw [ht, Expanding.ofExcept_ok_bind] at h
            obtain ⟨tree, ho, hd, hb, he⟩ := (hn _ _ _ _).1 h
            refine .inr ⟨path, tree, rfl, ?_, ho.unfold, hd, ?_, he⟩
            · rw [ht, ho.tokens_eq]
            · exact ExpansionContext.admits_append_iff.2
                ⟨between, ExpansionContext.admits_path_iff.2 hv, hb⟩
      · rintro (⟨_, hf, _⟩ | ⟨_, tree, hp, ht, hu, hd, hb, he⟩)
        · cases hf
        · cases hp
          have hb : before.Admits ([path] ++ tree.references) ([] ++ tree.assignments) after := hb
          obtain ⟨between, hv, hb⟩ := ExpansionContext.admits_append_iff.1 hb
          refine ⟨(), between, ExpansionContext.admits_path_iff.1 hv, ?_⟩
          rw [ht, Expanding.ofExcept_ok_bind]
          exact (hn _ _ _ _).2 ⟨tree, ⟨rfl, hu⟩, hd, hb, he⟩

/-- A run over positional arguments ends well if they come to branches that the context admits. -/
theorem run_foldlM_expandPositional (hn : ExpandsTrees files registry depth nested)
    {arguments : List String} {first : Expansion} :
    (arguments.foldlM (fun e argument => (e ++ ·) <$> expandPositional files nested argument)
        first).run.run before = some (.ok e, after) ↔
      ∃ branches : Branches registry, branches.Unfold files arguments ∧ branches.depth ≤ depth ∧
        before.Admits branches.references branches.assignments after ∧
        e = first ++ branches.expansion := by
  induction arguments generalizing before first with
  | nil =>
      constructor
      · intro h
        obtain ⟨rfl, rfl⟩ : first = e ∧ before = after := by simpa using h
        exact ⟨.done, .done, Nat.zero_le _, ExpansionContext.admits_nil_iff.2 rfl,
          Expansion.append_default.symm⟩
      · rintro ⟨branches, hu, _, hb, rfl⟩
        cases hu
        obtain rfl := ExpansionContext.admits_nil_iff.1 hb
        simp [Branches.expansion, Expansion.append_default]
  | cons argument arguments ih =>
      simp only [List.foldlM_cons, Expanding.run_bind_eq_ok_iff, Expanding.run_map_eq_ok_iff,
        run_expandPositional_eq_ok_iff hn, ih]
      constructor
      · rintro ⟨_, between, ⟨f, hf, rfl⟩, later, hu, hd, hb, rfl⟩
        rcases hf with ⟨ha, hr, rfl, rfl⟩ | ⟨path, tree, hr, ht, hv, hd', hb', rfl⟩
        · exact ⟨.file argument later, .file ha hr hu, hd, hb, Expansion.append_assoc ..⟩
        · refine ⟨.reference path tree.root tree.branches later, .reference hr ht hv hu, ?_, ?_,
            Expansion.append_assoc ..⟩
          · exact Nat.max_le.2 ⟨hd', hd⟩
          · rw [Branches.references_reference, Branches.assignments_reference]
            exact ExpansionContext.admits_append_iff.2 ⟨between, hb', hb⟩
      · rintro ⟨branches, hu, hd, hb, rfl⟩
        cases hu with
        | @file _ _ later ha hr hl =>
            exact ⟨_, before, ⟨_, .inl ⟨ha, hr, rfl, rfl⟩, rfl⟩, later, hl, hd, hb,
              (Expansion.append_assoc ..).symm⟩
        | @reference _ path _ vector nested later hr ht hv hl =>
            obtain ⟨hd', hd⟩ := Nat.max_le.1 hd
            rw [Branches.references_reference, Branches.assignments_reference] at hb
            obtain ⟨between, hb', hb⟩ := ExpansionContext.admits_append_iff.1 hb
            exact ⟨_, between, ⟨_, .inr ⟨path, ⟨vector, nested⟩, hr, ht, hv, hd', hb', rfl⟩, rfl⟩,
              later, hl, hd, hb, (Expansion.append_assoc ..).symm⟩

theorem expandsTrees_expandWithin : ExpandsTrees files registry depth
    (expandWithin files registry depth) := by
  induction depth with
  | zero =>
      intro tokens before after e
      simp [expandWithin]
  | succ depth ih =>
      intro tokens before after e
      cases ho : OwnArguments.read registry tokens with
      | error fault =>
          simp only [expandWithin, ho, Expanding.ofExcept_error_bind, Expanding.run_ofExcept]
          constructor
          · intro h
            simp at h
          · rintro ⟨tree, ht, _⟩
            rw [← ht.tokens_eq, tree.root.read_tokens] at ho
            cases ho
      | ok own =>
          obtain ⟨root, rfl, rfl⟩ := ArgumentVector.exists_of_read ho
          simp only [expandWithin, ho, Expanding.ofExcept_ok_bind, Expanding.run_bind_eq_ok_iff,
            run_foldlM_expandPositional ih]
          constructor
          · rintro ⟨_, between, ha, branches, hu, hd, hb, rfl⟩
            refine ⟨⟨root, branches⟩, ⟨rfl, hu⟩, Nat.lt_succ_of_le hd, ?_, rfl⟩
            rw [ExpansionTree.assignments_eq]
            exact ExpansionContext.admits_append_iff.2
              ⟨between, ExpansionContext.admits_assignments_iff.2 ha, hb⟩
          · rintro ⟨tree, ht, hd, hb, rfl⟩
            obtain rfl : tree.root = root := ArgumentVector.eq_of_tokens_eq ht.tokens_eq
            rw [ExpansionTree.assignments_eq, ← List.nil_append tree.references] at hb
            obtain ⟨between, ha, hb⟩ := ExpansionContext.admits_append_iff.1 hb
            exact ⟨(), between, ExpansionContext.admits_assignments_iff.1 ha, tree.branches,
              ht.unfold, Nat.le_of_lt_succ hd, hb, rfl⟩

end Trees

end ProtocInvocation
