import ProtocInvocation.Config
import ProtocInvocation.Proofs.Environment.Unsupported
import ProtocInvocation.Proofs.Expansion.Faults

/-!
# Configured defaults

Every configuration that loads has an include path and the name of an error format, also the one
without a file, which nothing validates (`Config.usable_of_loadWith`). So defaults refuse nothing,
and two configurations can tell apart only what the tree of a vector leaves open. Main statement:
`Environment.filledAlike_of_loadWith`.
-/

namespace ProtocInvocation

variable {files : FileSystem} {defaults other : Defaults} {tokens : List String}
  {given name : String} {fault : Fault}

/-! ## Defaults that fill every gap -/

/-- Defaults that fill every gap. -/
structure Defaults.Usable (defaults : Defaults) : Prop where
  includePaths_ne_nil : defaults.includePaths ≠ []
  errorFormat_mem_names : defaults.errorFormat ∈ ErrorFormat.names

namespace Defaults

theorem Usable.includePathsOr_ne_nil (h : defaults.Usable) (dirs : List String) :
    defaults.includePathsOr dirs ≠ [] := by
  rw [includePathsOr]
  split
  · exact h.includePaths_ne_nil
  · assumption

theorem includePathsOr_of_ne_nil {dirs : List String} (h : dirs ≠ []) :
    defaults.includePathsOr dirs = dirs :=
  if_neg h

theorem Usable.exists_errorFormatOr_empty (h : defaults.Usable) :
    ∃ format, defaults.errorFormatOr "" = .ok format := by
  obtain ⟨format, hf⟩ :=
    Option.isSome_iff_exists.1 (ErrorFormat.isSome_ofName?_iff.2 h.errorFormat_mem_names)
  refine ⟨format, ?_⟩
  simp [errorFormatOr, hf]

theorem errorFormatOr_congr (h : given ≠ "") :
    defaults.errorFormatOr given = other.errorFormatOr given := by
  simp [errorFormatOr, h]

theorem Usable.errorFormatOr_alike (h : defaults.Usable) (ho : other.Usable) (given : String) :
    (∃ fault, defaults.errorFormatOr given = .error fault ∧
        other.errorFormatOr given = .error fault) ∨
      ∃ format format', defaults.errorFormatOr given = .ok format ∧
        other.errorFormatOr given = .ok format' ∧ (given ≠ "" → format' = format) := by
  by_cases hg : given = ""
  · subst hg
    obtain ⟨format, hf⟩ := h.exists_errorFormatOr_empty
    obtain ⟨format', hf'⟩ := ho.exists_errorFormatOr_empty
    exact .inr ⟨format, format', hf, hf', fun hne => absurd rfl hne⟩
  have hsame : other.errorFormatOr given = defaults.errorFormatOr given := errorFormatOr_congr hg
  rw [hsame]
  rcases defaults.errorFormatOr given with fault | format
  · exact .inl ⟨fault, rfl, rfl⟩
  · exact .inr ⟨format, format, rfl, rfl, fun _ => rfl⟩

theorem Usable.eq_of_errorFormatOr (h : defaults.Usable)
    (hf : defaults.errorFormatOr given = .error (.invalidErrorFormat name)) :
    name = given ∧ given ≠ "" := by
  have hne : given ≠ "" := by
    rintro rfl
    obtain ⟨format, he⟩ := h.exists_errorFormatOr_empty
    rw [he] at hf
    cases hf
  simp only [errorFormatOr, if_neg hne] at hf
  split at hf
  · cases hf
  · cases hf
    exact ⟨rfl, hne⟩

end Defaults

/-! ## Loading -/

namespace Config

variable {config : Config}

theorem validate_eq_ok_iff : config.validate = .ok () ↔ config.defaults.Usable := by
  have hname : (ErrorFormat.ofName? config.defaults.errorFormat).isNone ↔
      config.defaults.errorFormat ∉ ErrorFormat.names := by
    rw [← ErrorFormat.isSome_ofName?_iff]
    simp
  rw [validate]
  by_cases hp : config.defaults.includePaths = []
  · rw [if_pos hp]
    exact ⟨nofun, fun h => absurd hp h.includePaths_ne_nil⟩
  rw [if_neg hp]
  by_cases hf : config.defaults.errorFormat ∈ ErrorFormat.names
  · rw [if_neg fun hn => hname.1 hn hf]
    exact ⟨fun _ => ⟨hp, hf⟩, fun _ => rfl⟩
  · rw [if_pos (hname.2 hf)]
    exact ⟨nofun, fun h => absurd h.errorFormat_mem_names hf⟩

/-- The configuration that stands in for a missing file passes the check that is made of the others.
-/
theorem usable_of_loadWith {read? : String → Option Config} {path : String}
    (h : loadWith read? files path = .ok config) : config.defaults.Usable := by
  simp only [loadWith] at h
  split at h
  · split at h
    · cases h
    · cases h
      exact ⟨nofun, by decide⟩
  split at h
  · cases h
  · obtain ⟨⟨⟩, hv, rfl⟩ := map_eq_ok_iff.1 h
    exact validate_eq_ok_iff.1 hv

end Config

/-! ## What a tree gives -/

namespace ExpansionTree

variable {registry : FlagRegistry} {tree : ExpansionTree registry}

theorem includeDirPaths_ne_nil_iff : tree.expansion.settings.includeDirPaths ≠ [] ↔
    ∃ v ∈ tree.vectors, v.occurrences .includeDirPaths ≠ [] := by
  have hnil : tree.expansion.settings.includeDirPaths = [] ↔
      ∀ v ∈ tree.vectors, v.occurrences .includeDirPaths = [] := by
    refine (get_settings_eq_zero_iff (f := .includeDirPaths)).trans ?_
    exact forall₂_congr fun v _ => v.received_list_eq_nil_iff nofun
  simp [hnil]

theorem exists_occurrence_errorFormat (h : tree.expansion.settings.errorFormat ≠ "") :
    ∃ v ∈ tree.vectors, some tree.expansion.settings.errorFormat ∈ v.occurrences .errorFormat := by
  have hget : tree.expansion.settings.errorFormat = Shape.text.overall
      (tree.vectors.map fun v => Shape.text.received (v.occurrences .errorFormat)) :=
    tree.get_settings_expansion .errorFormat
  rw [hget] at h ⊢
  obtain ⟨v, hv, he⟩ := List.mem_map.1 (Shape.overall_text_mem h)
  rw [← he] at h ⊢
  exact ⟨v, hv, Shape.some_received_text_mem h⟩

end ExpansionTree

/-! ## Two configurations -/

namespace Environment

variable {plugins : PluginTable} {e : Expansion} {result : Except Fault Environment}

/-- Two results of one vector of tokens that differ at most where a default fills a gap of its tree:
in the include paths if no vector gives one, and in the error format if the merged one is empty. -/
inductive FilledAlike (files : FileSystem) (tokens : List String) :
    Except Fault Environment → Except Fault Environment → Prop
  | refused (fault : Fault) : FilledAlike files tokens (.error fault) (.error fault)
  | resolved {tree : ExpansionTree .builtin} {env : Environment} {dirs : List String}
      {format : ErrorFormat} :
      tree.IsOf files tokens →
      ((∃ v ∈ tree.vectors, v.occurrences .includeDirPaths ≠ []) → dirs = env.includeDirPaths) →
      (tree.expansion.settings.errorFormat ≠ "" → format = env.errorFormat) →
      FilledAlike files tokens (.ok env)
        (.ok { env with includeDirPaths := dirs, errorFormat := format })

theorem filledAlike_ofExpansion {tree : ExpansionTree .builtin} (ht : tree.IsOf files tokens)
    (hd : defaults.Usable) (ho : other.Usable) :
    FilledAlike files tokens (ofExpansion defaults tree.expansion plugins)
      (ofExpansion other tree.expansion plugins) := by
  simp only [ofExpansion]
  rcases checkSupported .builtin tree.expansion.settings with fault | ⟨⟩
  · exact .refused fault
  rcases checkActionable plugins with fault | ⟨⟩
  · exact .refused fault
  -- the checks so far have not looked at the defaults
  rcases hd.errorFormatOr_alike ho tree.expansion.settings.errorFormat with
    ⟨fault, hf, hf'⟩ | ⟨format, format', hf, hf', hgiven⟩
  · rw [hf, hf']
    exact .refused fault
  rw [hf, hf']
  by_cases hp : tree.expansion.filePaths = []
  · simp only [if_pos hp]
    exact .refused .noInputFiles
  · simp only [if_neg hp]
    refine .resolved ht (fun hdirs => ?_) hgiven
    have hne := tree.includeDirPaths_ne_nil_iff.2 hdirs
    rw [Defaults.includePathsOr_of_ne_nil hne, Defaults.includePathsOr_of_ne_nil hne]

theorem exists_of_checkSupported {registry : FlagRegistry} {s : Settings}
    (h : checkSupported registry s = .error fault) : ∃ flag, fault = .unsupportedFeature flag := by
  simp only [checkSupported] at h
  split at h
  · cases h
    exact ⟨_, rfl⟩
  · cases h

theorem exists_of_checkActionable (h : checkActionable plugins = .error fault) :
    ∃ plugin, fault = .optWithoutOut plugin ∨ fault = .pathWithoutOut plugin := by
  simp only [checkActionable] at h
  split at h
  · rename_i found hi
    obtain rfl := Except.error.inj h
    obtain ⟨⟨plugin, entry⟩, _, he⟩ := List.exists_of_findSome?_eq_some hi
    refine ⟨plugin, ?_⟩
    simp only [PluginEntry.inactionable?] at he
    grind
  · cases h

theorem errorFormatOr_of_ofExpansion
    (h : ofExpansion defaults e plugins = .error (.invalidErrorFormat name)) :
    defaults.errorFormatOr e.settings.errorFormat = .error (.invalidErrorFormat name) := by
  simp only [ofExpansion, bind_eq_error_iff] at h
  rcases h with h | ⟨⟨⟩, _, h | ⟨⟨⟩, _, h | ⟨format, _, h⟩⟩⟩
  · obtain ⟨flag, hf⟩ := exists_of_checkSupported h
    cases hf
  · obtain ⟨plugin, hf | hf⟩ := exists_of_checkActionable h
    · cases hf
    · cases hf
  · exact h
  · split at h
    · cases h
    · cases h

theorem exists_filledAlike_of_resolves (hd : defaults.Usable) (ho : other.Usable)
    (h : Resolves files defaults tokens result) :
    ∃ result', Resolves files other tokens result' ∧ FilledAlike files tokens result result' := by
  obtain ⟨⟨fault | e, after⟩, he, rfl⟩ := h
  · exact ⟨.error fault, ⟨_, he, rfl⟩, .refused fault⟩
  · obtain ⟨tree, ht, _, rfl⟩ := expands_ok_iff.1 he
    exact ⟨_, ⟨_, he, rfl⟩, filledAlike_ofExpansion ht hd ho⟩

theorem includeDirPaths_ne_nil_of_resolves {env : Environment} (hd : defaults.Usable)
    (h : Resolves files defaults tokens (.ok env)) : env.includeDirPaths ≠ [] := by
  obtain ⟨tree, after, _, _, ho⟩ := exists_of_resolves h
  obtain ⟨_, _, _, format, _, rfl⟩ := ofExpansion_eq_ok_iff.1 ho
  exact hd.includePathsOr_ne_nil _

theorem exists_occurrence_of_resolves (hd : defaults.Usable)
    (h : Resolves files defaults tokens (.error (.invalidErrorFormat name))) :
    name ≠ "" ∧ ∃ tree : ExpansionTree .builtin, tree.IsOf files tokens ∧
      ∃ v ∈ tree.vectors, some name ∈ v.occurrences .errorFormat := by
  obtain ⟨⟨fault | e, after⟩, he, ho⟩ := h
  · obtain rfl := Except.error.inj ho
    exact absurd rfl he.stage_ne_checking
  · obtain ⟨tree, ht, _, rfl⟩ := expands_ok_iff.1 he
    obtain ⟨rfl, hne⟩ := hd.eq_of_errorFormatOr (errorFormatOr_of_ofExpansion ho)
    exact ⟨hne, tree, ht, tree.exists_occurrence_errorFormat hne⟩

/-- Configurations that loaded, from wherever and whatever is made of their texts, only fill gaps:
with the defaults of another one a vector of tokens is refused for the same fault, or it resolves to
the same environment up to what its tree leaves open. There always is an include path, and a name
that is refused for an error format is not empty and stands in the tree. -/
theorem filledAlike_of_loadWith {read? read?' : String → Option Config}
    {configFiles configFiles' : FileSystem} {path path' : String} {config config' : Config}
    (hc : Config.loadWith read? configFiles path = .ok config)
    (hc' : Config.loadWith read?' configFiles' path' = .ok config')
    (h : Resolves files config.defaults tokens result) :
    (∃ result', Resolves files config'.defaults tokens result') ∧
      (∀ result', Resolves files config'.defaults tokens result' →
        FilledAlike files tokens result result') ∧
      (∀ env, result = .ok env → env.includeDirPaths ≠ []) ∧
      ∀ name, result = .error (.invalidErrorFormat name) →
        name ≠ "" ∧ ∃ tree : ExpansionTree .builtin, tree.IsOf files tokens ∧
          ∃ v ∈ tree.vectors, some name ∈ v.occurrences .errorFormat := by
  have hd := Config.usable_of_loadWith hc
  have hd' := Config.usable_of_loadWith hc'
  obtain ⟨result', h', halike⟩ := exists_filledAlike_of_resolves hd hd' h
  refine ⟨⟨result', h'⟩, fun result'' h'' => h'.unique h'' ▸ halike, ?_, ?_⟩
  · rintro env rfl
    exact includeDirPaths_ne_nil_of_resolves hd h
  · rintro name rfl
    exact exists_occurrence_of_resolves hd h

/-- An include path from an argument file stays, with a configuration that has another one and
without any configuration. -/
theorem filledAlike_of_loadWith_missing :
    Config.load (FileStore.ofAnswers []).toFileSystem "config.toml" = .ok {} ∧
      Config.load (FileStore.ofAnswers [("config.toml",
          .ok "[defaults]\ninclude_paths = [\"b\"]\nerror_format = \"json\"")]).toFileSystem
        "config.toml" = .ok { defaults := ⟨["b"], "json"⟩ } ∧
      ∃ env result', Resolves (FileStore.ofAnswers [("f", .ok "-Ia")]).toFileSystem {}
          ["@f", "a.proto"] (.ok env) ∧
        Resolves (FileStore.ofAnswers [("f", .ok "-Ia")]).toFileSystem ⟨["b"], "json"⟩
          ["@f", "a.proto"] result' ∧
        FilledAlike (FileStore.ofAnswers [("f", .ok "-Ia")]).toFileSystem ["@f", "a.proto"]
          (.ok env) result' := by
  have hc : Config.load (FileStore.ofAnswers []).toFileSystem "config.toml" = .ok {} := by
    decide +kernel
  have hc' : Config.load (FileStore.ofAnswers [("config.toml",
      .ok "[defaults]\ninclude_paths = [\"b\"]\nerror_format = \"json\"")]).toFileSystem
        "config.toml" = .ok { defaults := ⟨["b"], "json"⟩ } := by decide +kernel
  have hplugins : (resolve (.ofAnswers [("f", .ok "-Ia")]) {} ["@f", "a.proto"]).map
      Environment.plugins = .ok default := by decide +kernel
  obtain ⟨env, h, _⟩ := exists_resolves_of_plugins hplugins
  obtain ⟨⟨result', h'⟩, halike, _⟩ := filledAlike_of_loadWith hc hc' h
  exact ⟨hc, hc', env, result', h, h', halike result' h'⟩

end Environment

end ProtocInvocation
