import ProtocInvocation.Environment.Basic
import ProtocInvocation.Proofs.Expansion.Outcome

/-!
# Resolved environments

Which environment a vector of tokens resolves to in any file system, also in one without end, and
what its checks have made sure of by then. In a file store it is what `Environment.resolve` gives
(`Environment.resolves_iff`).
-/

namespace ProtocInvocation

variable {files : FileSystem} {defaults : Defaults} {tokens : List String}

/-! ## Tables in use -/

namespace PluginTable

variable {table : PluginTable}

/-- In a table in use a plugin with nowhere to write has a blank entry. -/
theorem eq_blank_of_inactionable? {plugin : String} {e : PluginEntry}
    (ht : table.inactionable? = none) (he : table.get? plugin = some e) (ho : e.out = "") :
    e = {} := by
  have hn : e.inactionable? plugin = none :=
    List.findSome?_eq_none_iff.1 ht (plugin, e) (mem_entries_of_get? he)
  obtain ⟨hopt, hpath⟩ := (PluginEntry.inactionable?_eq_none_iff.1 hn).resolve_left fun h => h ho
  obtain ⟨out, opt, path⟩ := e
  simp_all

end PluginTable

theorem checkActionable_eq_ok_iff {table : PluginTable} :
    checkActionable table = .ok () ↔ table.inactionable? = none := by
  rw [checkActionable]
  cases table.inactionable? <;> simp

/-! ## Resolution -/

namespace Environment

variable {env : Environment} {e : Expansion} {plugins : PluginTable}

theorem ofExpansion_eq_ok_iff : ofExpansion defaults e plugins = .ok env ↔
    checkSupported .builtin e.settings = .ok () ∧ checkActionable plugins = .ok () ∧
      e.filePaths ≠ [] ∧ ∃ errorFormat,
        defaults.errorFormatOr e.settings.errorFormat = .ok errorFormat ∧
        env = {
          includeDirPaths := defaults.includePathsOr e.settings.includeDirPaths
          includeImports := e.settings.includeImports
          includeSourceInfo := e.settings.includeSourceInfo
          printFreeFieldNumbers := e.settings.printFreeFieldNumbers
          output := if e.settings.output = "" then none else some e.settings.output
          errorFormat
          plugins
          filePaths := e.filePaths } := by
  simp only [ofExpansion, bind_eq_ok_iff]
  constructor
  · rintro ⟨⟨⟩, hs, ⟨⟩, ha, errorFormat, hf, h⟩
    split at h
    · cases h
    · rename_i hp
      exact ⟨hs, ha, hp, errorFormat, hf, (Except.ok.inj h).symm⟩
  · rintro ⟨hs, ha, hp, errorFormat, hf, rfl⟩
    refine ⟨(), hs, (), ha, errorFormat, hf, ?_⟩
    rw [if_neg hp]
    rfl

/-- The vector of tokens resolves to this environment or fault. -/
def Resolves (files : FileSystem) (defaults : Defaults) (tokens : List String)
    (result : Except Fault Environment) : Prop :=
  ∃ outcome, Expands files .builtin tokens default outcome ∧ ofOutcome defaults outcome = result

theorem Resolves.unique {first second : Except Fault Environment}
    (hf : Resolves files defaults tokens first) (hs : Resolves files defaults tokens second) :
    first = second := by
  obtain ⟨outcome, hf, rfl⟩ := hf
  obtain ⟨outcome', hs, rfl⟩ := hs
  rw [hf.unique hs]

theorem resolves_iff {store : FileStore} {result : Except Fault Environment} :
    Resolves store.toFileSystem defaults tokens result ↔
      resolve store defaults tokens = result := by
  simp only [Resolves, expands_iff]
  constructor
  · rintro ⟨_, rfl, h⟩
    exact h
  · exact fun h => ⟨_, rfl, h⟩

theorem exists_resolves_of_plugins {store : FileStore}
    (h : (resolve store defaults tokens).map Environment.plugins = .ok plugins) :
    ∃ env, Resolves store.toFileSystem defaults tokens (.ok env) ∧ env.plugins = plugins := by
  obtain ⟨env, he, hp⟩ := map_eq_ok_iff.1 h
  exact ⟨env, resolves_iff.2 he, hp⟩

/-- What resolves to an environment has an expansion tree, and the expansion passed all checks. -/
theorem exists_of_resolves (h : Resolves files defaults tokens (.ok env)) :
    ∃ (tree : ExpansionTree .builtin) (after : ExpansionContext), tree.IsOf files tokens ∧
      ExpansionContext.Admits default tree.references tree.assignments after ∧
      ofExpansion defaults tree.expansion after.plugins = .ok env := by
  obtain ⟨⟨_ | e, after⟩, he, ho⟩ := h
  · cases ho
  · obtain ⟨tree, ht, ha, rfl⟩ := expands_ok_iff.1 he
    exact ⟨tree, after, ht, ha, ho⟩

end Environment

end ProtocInvocation
