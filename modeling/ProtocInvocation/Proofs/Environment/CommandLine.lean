import ProtocInvocation.Proofs.Environment.Expressible
import ProtocInvocation.Proofs.Environment.Unsupported
import ProtocInvocation.Proofs.Expansion.Opening

/-!
# Flat command lines

An environment written out as one vector that refers to no file. Whatever resolves to an environment
can be replaced by the vector that the environment is written as (`resolves_commandLine`).
-/

namespace ProtocInvocation

open scoped List

variable {files : FileSystem} {defaults : Defaults} {tokens : List String} {env : Environment}

/-! ## Writing an environment -/

/-- The directives and the path of an entry as arguments. -/
def PluginEntry.arguments (plugin : String) (e : PluginEntry) : List Argument :=
  (e.directives plugin).map .directive ++
    (e.paths plugin).map fun path => .flag .pluginPathValues "--plugin" (some path)

namespace Environment

/-- The include paths that have to be given, since the defaults are not the same. -/
def givenPaths (defaults : Defaults) (env : Environment) : List String :=
  if env.includeDirPaths = defaults.includePaths then [] else env.includeDirPaths

/-- The flags that give everything but plugins and files. -/
def flags (defaults : Defaults) (env : Environment) : List Argument :=
  ((env.givenPaths defaults).map fun dir => .flag .includeDirPaths "--proto_path" (some dir)) ++
  (if env.includeImports then [.flag .includeImports "--include_imports" none] else []) ++
  (if env.includeSourceInfo then [.flag .includeSourceInfo "--include_source_info" none] else []) ++
  (if env.printFreeFieldNumbers then
    [.flag .printFreeFieldNumbers "--print_free_field_numbers" none] else []) ++
  (env.output.toList.map fun path => .flag .output "--descriptor_set_out" (some path)) ++
  [.flag .errorFormat "--error_format" (some env.errorFormat.name)]

/-- The arguments that give everything but files. -/
def arguments (defaults : Defaults) (env : Environment) : List Argument :=
  env.flags defaults ++ env.plugins.entries.flatMap fun entry => entry.2.arguments entry.1

/-- The vector that gives an environment without argument files. -/
def commandLine (defaults : Defaults) (env : Environment) : List String :=
  (env.arguments defaults).map Argument.token ++ "--" :: env.filePaths

end Environment

/-! ## What it sets -/

namespace PluginEntry

variable {plugin : String} {e : PluginEntry}

theorem Expressible.isNamed_of_mem {d : Directive} (h : e.Expressible plugin)
    (hd : d ∈ e.directives plugin) : d.IsNamed := by
  rcases List.mem_cons.1 hd with rfl | hd
  · split
    · exact h.isNamed_opt ""
    · rename_i ho
      exact h.isNamed_out ho
  · obtain ⟨opt, _, rfl⟩ := List.mem_map.1 hd
    exact h.isNamed_opt opt

theorem Expressible.isPlain_of_mem {a : Argument} (h : e.Expressible plugin)
    (ha : a ∈ e.arguments plugin) : a.IsPlain := by
  rcases List.mem_append.1 ha with ha | ha
  · obtain ⟨d, hd, rfl⟩ := List.mem_map.1 ha
    exact h.isNamed_of_mem hd
  · obtain ⟨path, _, rfl⟩ := List.mem_map.1 ha
    exact ⟨by decide, iff_of_true rfl nofun⟩

theorem filterMap_directive? :
    (e.arguments plugin).filterMap Argument.directive? = e.directives plugin := by
  simp [arguments, List.filterMap_append, List.filterMap_map, Function.comp_def,
    Argument.directive?]

theorem filterMap_occurrence? {f : Field} : (e.arguments plugin).filterMap
    (Argument.occurrence? f) = if f = .pluginPathValues then (e.paths plugin).map some else [] := by
  by_cases hf : f = .pluginPathValues
  · simp [arguments, List.filterMap_append, List.filterMap_map, Function.comp_def,
      Argument.occurrence?, hf]
  · simp [arguments, List.filterMap_append, List.filterMap_map, Function.comp_def,
      Argument.occurrence?, hf, Ne.symm hf]

end PluginEntry

namespace Environment

theorem mem_flags {a : Argument} (ha : a ∈ env.flags defaults) :
    a.IsPlain ∧ a.directive? = none := by
  simp only [flags, List.mem_append, List.mem_ite_nil_right, List.mem_map, List.mem_singleton] at ha
  -- one case for each kind of flag, in order
  rcases ha with ((((⟨dir, _, rfl⟩ | ⟨_, rfl⟩) | ⟨_, rfl⟩) | ⟨_, rfl⟩) | ⟨path, _, rfl⟩) | rfl
  · exact ⟨⟨by decide, iff_of_true rfl nofun⟩, rfl⟩
  · exact ⟨⟨by decide, iff_of_false nofun (by decide)⟩, rfl⟩
  · exact ⟨⟨by decide, iff_of_false nofun (by decide)⟩, rfl⟩
  · exact ⟨⟨by decide, iff_of_false nofun (by decide)⟩, rfl⟩
  · exact ⟨⟨by decide, iff_of_true rfl nofun⟩, rfl⟩
  · exact ⟨⟨by decide, iff_of_true rfl nofun⟩, rfl⟩

theorem Expressible.isPlain_of_mem {a : Argument} (h : env.Expressible defaults)
    (ha : a ∈ env.arguments defaults) : a.IsPlain := by
  rcases List.mem_append.1 ha with ha | ha
  · exact (mem_flags ha).1
  · obtain ⟨entry, hm, ha⟩ := List.mem_flatMap.1 ha
    exact (h.plugins entry hm).isPlain_of_mem ha

theorem filterMap_directive? :
    (env.arguments defaults).filterMap Argument.directive? = env.plugins.directives := by
  have hflags : (env.flags defaults).filterMap Argument.directive? = [] :=
    List.filterMap_eq_nil_iff.2 fun a ha => (mem_flags ha).2
  rw [arguments, List.filterMap_append, hflags, List.nil_append, List.filterMap_flatMap,
    PluginTable.directives]
  simp only [PluginEntry.filterMap_directive?]

/-- The settings that a flat command line comes to. -/
def settings (defaults : Defaults) (env : Environment) : Settings where
  includeDirPaths := env.givenPaths defaults
  includeImports := env.includeImports
  includeSourceInfo := env.includeSourceInfo
  printFreeFieldNumbers := env.printFreeFieldNumbers
  output := env.output.getD ""
  errorFormat := env.errorFormat.name
  pluginPathValues := env.plugins.paths

theorem filterMap_occurrence? {f : Field} :
    (env.arguments defaults).filterMap (Argument.occurrence? f) =
      match f with
      | .includeDirPaths => (env.givenPaths defaults).map some
      | .includeImports => if env.includeImports then [none] else []
      | .includeSourceInfo => if env.includeSourceInfo then [none] else []
      | .printFreeFieldNumbers => if env.printFreeFieldNumbers then [none] else []
      | .output => env.output.toList.map some
      | .errorFormat => [some env.errorFormat.name]
      | .pluginPathValues => env.plugins.paths.map some
      | _ => [] := by
  have hplugins : (env.plugins.entries.flatMap fun entry => entry.2.arguments entry.1).filterMap
      (Argument.occurrence? f) =
        if f = .pluginPathValues then env.plugins.paths.map some else [] := by
    rw [List.filterMap_flatMap, PluginTable.paths, List.map_flatMap]
    simp only [PluginEntry.filterMap_occurrence?]
    split
    · rfl
    · exact List.flatMap_eq_nil_iff.2 fun _ _ => rfl
  rw [arguments, List.filterMap_append, hplugins]
  simp only [flags, List.filterMap_append, apply_ite (List.filterMap (Argument.occurrence? f))]
  cases f <;> simp [Argument.occurrence?, List.filterMap_map, Function.comp_def]

theorem Expressible.comma_notMem_givenPaths (h : env.Expressible defaults) :
    ∀ dir ∈ env.givenPaths defaults, ',' ∉ dir.toList := by
  rw [givenPaths]
  split
  · exact nofun
  · rename_i hne
    exact (h.includeDirPaths.resolve_left hne).2

theorem Expressible.comma_notMem_paths (h : env.Expressible defaults) :
    ∀ path ∈ env.plugins.paths, ',' ∉ path.toList := by
  intro value hv
  obtain ⟨entry, hm, hv⟩ := List.mem_flatMap.1 hv
  obtain ⟨path, hp, rfl⟩ := List.mem_map.1 hv
  obtain ⟨hplugin, hpath⟩ := (h.plugins entry hm).comma_notMem path (Option.mem_toList.1 hp)
  simp [executableLead, hplugin, hpath]

/-- A flat command line sets what the environment holds. -/
theorem Expressible.received_eq (h : env.Expressible defaults) (f : Field) :
    f.shape.received ((env.arguments defaults).filterMap (Argument.occurrence? f)) =
      (env.settings defaults).get f := by
  rw [filterMap_occurrence?]
  cases f with
  | includeDirPaths => exact Shape.received_list_map_some h.comma_notMem_givenPaths
  | includeImports => exact Shape.received_flag_ite
  | includeSourceInfo => exact Shape.received_flag_ite
  | printFreeFieldNumbers => exact Shape.received_flag_ite
  | output => cases ho : env.output <;> simp [Shape.received, Settings.get, settings, ho]
  | errorFormat => rfl
  | pluginPathValues => exact Shape.received_list_map_some h.comma_notMem_paths
  | encode => rfl
  | decode => rfl
  | decodeRaw => rfl
  | descriptorSetIn => rfl

theorem Expressible.foldlM_bind (h : env.Expressible defaults) :
    (env.arguments defaults).foldlM Argument.bind default = .ok (env.settings defaults) := by
  obtain ⟨s, hs⟩ := exists_foldlM_eq_ok (fun a ha => (h.isPlain_of_mem ha).exists_bind) default
  have heq : s = env.settings defaults :=
    Settings.ext_get fun f => (get_of_foldlM_bind hs).trans (h.received_eq f)
  rw [hs, heq]

theorem Expressible.read_commandLine (h : env.Expressible defaults) :
    OwnArguments.read .builtin (env.commandLine defaults) =
      .ok ⟨env.settings defaults, .ofList env.plugins.directives, env.filePaths⟩ := by
  have hclassify : Argument.classify .builtin (env.commandLine defaults) =
      .ok (env.arguments defaults ++ env.filePaths.map Argument.positional) := by
    rw [commandLine, Argument.classify_map_token_append fun a ha => (h.isPlain_of_mem ha).legible,
      Argument.classify_endOfFlags]
    rfl
  have hbind : (env.arguments defaults ++ env.filePaths.map Argument.positional).foldlM
      Argument.bind default = .ok (env.settings defaults) := by
    rw [List.foldlM_append, h.foldlM_bind]
    exact foldlM_bind_positional
  have hnone : (env.arguments defaults).filterMap Argument.positional? = [] :=
    List.filterMap_eq_nil_iff.2 fun a ha => (h.isPlain_of_mem ha).positional?_eq_none
  refine bind_eq_ok_iff.2 ⟨_, hclassify, bind_eq_ok_iff.2 ⟨_, hbind, ?_⟩⟩
  simp only [List.filterMap_append, filterMap_directive?, hnone, List.filterMap_map]
  simp [Function.comp_def, Argument.directive?, Argument.positional?]
  rfl

end Environment

/-! ## What it assigns -/

namespace PluginEntry.Expressible

variable {plugin : String} {e : PluginEntry}

theorem equals_notMem (h : e.Expressible plugin) : '=' ∉ plugin.toList :=
  fun hm => (h.isNamed_opt "").equals_notMem (by simp [hm])

/-- The location of an entry is not cut. -/
theorem assignments_eq (h : e.Expressible plugin) {d : Directive} (hd : d ∈ e.directives plugin) :
    d.assignments = [.ok d.assignment] := by
  rcases List.mem_cons.1 hd with rfl | hd
  · split
    · rfl
    · exact outAssignments_of_notMem h.colon_notMem
  · obtain ⟨opt, _, rfl⟩ := List.mem_map.1 hd
    rfl

theorem map_pathAssignment (h : e.Expressible plugin) :
    (e.paths plugin).map pathAssignment = (e.pathAssignments plugin).map .ok := by
  rw [paths, pathAssignments, List.map_map, List.map_map]
  refine List.map_congr_left fun path _ => ?_
  have hname : '=' ∉ (executableLead ++ plugin).toList := by
    simp [executableLead, h.equals_notMem]
  have hcut : Text.cut '=' (executableLead ++ plugin ++ "=" ++ path) =
      (executableLead ++ plugin, some path) := Text.cut_append hname
  have hne : executableLead ++ plugin ++ "=" ++ path ≠ "" := fun he => by
    simpa using congrArg String.toList he
  have hplugin : Text.dropLead? executableLead (executableLead ++ plugin) = some plugin :=
    Text.dropLead?_eq_some_iff.2 rfl
  simp only [Function.comp_apply, pathAssignment, if_neg hne, namedPath, hcut, hplugin]

end PluginEntry.Expressible

namespace Environment

/-- A flat command line makes the table of the environment. -/
theorem Expressible.record_assignments (h : env.Expressible defaults) :
    PluginTable.empty.record
      (⟨env.settings defaults, .ofList env.plugins.directives, env.filePaths⟩ :
        OwnArguments).assignments = (.ok (), env.plugins) := by
  have huse : ∀ entry ∈ env.plugins.entries, entry.2.InUse :=
    fun entry hm => (h.plugins entry hm).toInUse
  refine PluginTable.record_own huse ?_
  have hdirectives : env.plugins.directives.flatMap Directive.assignments =
      (env.plugins.directives.map Directive.assignment).map .ok := by
    rw [List.map_map, List.map_eq_flatMap]
    refine List.flatMap_congr fun d hd => ?_
    obtain ⟨entry, hm, hd⟩ := List.mem_flatMap.1 hd
    exact (h.plugins entry hm).assignments_eq hd
  have hpaths : env.plugins.paths.map pathAssignment =
      (env.plugins.entries.flatMap fun entry => entry.2.pathAssignments entry.1).map .ok := by
    rw [PluginTable.paths, List.map_flatMap, List.map_flatMap]
    exact List.flatMap_congr fun entry hm => (h.plugins entry hm).map_pathAssignment
  -- a log is read plugin by plugin, all outputs of one before its options
  have hlog : (DirectiveLog.ofList env.plugins.directives).assignments ~
      env.plugins.directives.flatMap Directive.assignments :=
    DirectiveLog.assignments_perm (PluginTable.nodup_directives huse)
  calc (DirectiveLog.ofList env.plugins.directives).assignments ++
        env.plugins.paths.map pathAssignment
    _ ~ env.plugins.directives.flatMap Directive.assignments ++
          env.plugins.paths.map pathAssignment := hlog.append_right _
    _ = (env.plugins.directives.map Directive.assignment ++
          env.plugins.entries.flatMap fun entry => entry.2.pathAssignments entry.1).map .ok := by
        rw [hdirectives, hpaths, List.map_append]
    _ ~ env.plugins.assignments.map .ok := PluginTable.assignments_perm.map _

/-! ## What it resolves to -/

theorem checkSupported_settings : checkSupported .builtin (env.settings defaults) = .ok () := by
  rw [checkSupported_eq_ok_iff, FlagRegistry.unsupportedFields_builtin]
  simp [Settings.get, settings, Shape.zero]

theorem Expressible.checkActionable_eq (h : env.Expressible defaults) :
    checkActionable env.plugins = .ok () := by
  rw [checkActionable_eq_ok_iff, PluginTable.inactionable?, List.findSome?_eq_none_iff]
  intro entry hm
  refine PluginEntry.inactionable?_eq_none_iff.2 ?_
  by_cases ho : entry.2.out = ""
  · rw [(h.plugins entry hm).eq_blank ho]
    exact .inr ⟨rfl, rfl⟩
  · exact .inl ho

theorem Expressible.includePathsOr_eq (h : env.Expressible defaults) :
    defaults.includePathsOr (env.settings defaults).includeDirPaths = env.includeDirPaths := by
  simp only [settings, givenPaths, Defaults.includePathsOr]
  by_cases hsame : env.includeDirPaths = defaults.includePaths
  · simp [hsame]
  · simp [hsame, (h.includeDirPaths.resolve_left hsame).1]

theorem errorFormatOr_name {format : ErrorFormat} :
    defaults.errorFormatOr format.name = .ok format := by
  have hne : format.name ≠ "" := by cases format <;> decide
  simp [Defaults.errorFormatOr, hne, ErrorFormat.ofName?_name]

theorem Expressible.output_eq (h : env.Expressible defaults) :
    (if (env.settings defaults).output = "" then none else some (env.settings defaults).output) =
      env.output := by
  have hget : (env.settings defaults).output = env.output.getD "" := rfl
  have hne := h.output_ne
  rw [hget]
  cases ho : env.output with
  | none => rfl
  | some path =>
      rw [ho] at hne
      exact if_neg fun he => hne (congrArg some he)

theorem Expressible.ofExpansion_eq (h : env.Expressible defaults) :
    ofExpansion defaults ⟨env.settings defaults, env.filePaths⟩ env.plugins = .ok env := by
  refine ofExpansion_eq_ok_iff.2 ⟨checkSupported_settings, h.checkActionable_eq, h.filePaths_ne,
    env.errorFormat, errorFormatOr_name, ?_⟩
  dsimp only
  rw [h.includePathsOr_eq, h.output_eq]
  rfl

/-- What can be given by one vector is given by it, whatever the files hold. -/
theorem Expressible.expands_commandLine (h : env.Expressible defaults) (files : FileSystem) :
    Expands files .builtin (env.commandLine defaults) default
      (.ok ⟨env.settings defaults, env.filePaths⟩, { plugins := env.plugins }) :=
  expands_of_files h.read_commandLine h.filePaths h.record_assignments

/-- The environments that something resolves to are those that one vector can give. -/
theorem exists_resolves_iff :
    (∃ files tokens, Resolves files defaults tokens (.ok env)) ↔ env.Expressible defaults := by
  constructor
  · rintro ⟨files, tokens, h⟩
    exact expressible_of_resolves h
  · intro h
    exact ⟨⟨fun _ => .error .notFound⟩, _, _, h.expands_commandLine _, h.ofExpansion_eq⟩

/-- Whatever resolves to an environment can be replaced by the flat command line of the environment:
in every file system it resolves to the same, and opens no file. -/
theorem resolves_commandLine (h : Resolves files defaults tokens (.ok env)) (others : FileSystem) :
    Resolves others defaults (env.commandLine defaults) (.ok env) ∧
      ∃ outcome, Opens others .builtin (env.commandLine defaults) default outcome [] := by
  have he := expressible_of_resolves h
  have hx := he.expands_commandLine others
  exact ⟨⟨_, hx, he.ofExpansion_eq⟩, _, opens_iff.2 ⟨hx, rfl⟩⟩

/-- Lists, a combined directive, a bare path and an argument file are written out flat. -/
theorem resolves_commandLine_nested :
    ∃ env, Resolves
        (FileStore.ofAnswers [("f", .ok "--go_out=x:gen\n--\n-a.proto")]).toFileSystem {}
        ["-Ia,b", "@f", "--include-imports", "--plugin=/bin/protoc-gen-go", "-oset", "--ts_opt="]
        (.ok env) ∧
      env.commandLine {} = ["--proto_path=a", "--proto_path=b", "--include_imports",
        "--descriptor_set_out=set", "--error_format=text", "--go_out=gen", "--go_opt=x",
        "--plugin=protoc-gen-go=/bin/protoc-gen-go", "--ts_opt=", "--", "-a.proto"] ∧
      Resolves ⟨fun _ => .error .notFound⟩ {} ["--proto_path=a", "--proto_path=b",
        "--include_imports", "--descriptor_set_out=set", "--error_format=text", "--go_out=gen",
        "--go_opt=x", "--plugin=protoc-gen-go=/bin/protoc-gen-go", "--ts_opt=", "--", "-a.proto"]
        (.ok env) := by
  have h : Resolves (FileStore.ofAnswers
      [("f", .ok "--go_out=x:gen\n--\n-a.proto")]).toFileSystem {}
      ["-Ia,b", "@f", "--include-imports", "--plugin=/bin/protoc-gen-go", "-oset", "--ts_opt="]
      (.ok {
        includeDirPaths := ["a", "b"], includeImports := true, includeSourceInfo := false
        printFreeFieldNumbers := false, output := some "set", errorFormat := .text
        plugins := ⟨[("go", { out := "gen", opt := some "x", path := some "/bin/protoc-gen-go" }),
          ("ts", {})], by decide⟩
        filePaths := ["-a.proto"] }) := resolves_iff.2 (by decide +kernel)
  have hflat := (resolves_commandLine h ⟨fun _ => .error .notFound⟩).1
  exact ⟨_, h, by decide +kernel, hflat⟩

end Environment

end ProtocInvocation
