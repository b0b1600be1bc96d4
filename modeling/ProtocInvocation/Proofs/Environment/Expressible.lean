import ProtocInvocation.Proofs.Argument.Spelling
import ProtocInvocation.Proofs.Environment.Resolution
import ProtocInvocation.Proofs.Expansion.Files
import ProtocInvocation.Proofs.Expansion.Plugins
import ProtocInvocation.Proofs.Plugin.Entries

/-!
# What a resolved environment can hold

Values are cut at commas and colons, names at equals signs, and arguments are told apart by their
first character, so what is left after all cuts cannot be cut again. Main statement:
`expressible_of_resolves`.
-/

namespace ProtocInvocation

open scoped List

variable {files : FileSystem} {registry : FlagRegistry} {defaults : Defaults} {tokens : List String}
  {env : Environment}

/-- An entry in use whose name and values one vector can give, each in a token of its own. -/
structure PluginEntry.Expressible (plugin : String) (e : PluginEntry) : Prop extends InUse e where
  isNamed_opt : ∀ value, Directive.IsNamed ⟨plugin, .opt, value⟩
  isNamed_out : e.out ≠ "" → Directive.IsNamed ⟨plugin, .out, e.out⟩
  colon_notMem : ':' ∉ e.out.toList
  comma_notMem : ∀ path, e.path = some path → ',' ∉ plugin.toList ∧ ',' ∉ path.toList

/-- An environment that one vector can give without argument files. -/
structure Environment.Expressible (defaults : Defaults) (env : Environment) : Prop where
  includeDirPaths : env.includeDirPaths = defaults.includePaths ∨
    env.includeDirPaths ≠ [] ∧ ∀ dir ∈ env.includeDirPaths, ',' ∉ dir.toList
  output_ne : env.output ≠ some ""
  plugins : ∀ entry ∈ env.plugins.entries, entry.2.Expressible entry.1
  filePaths_ne : env.filePaths ≠ []
  filePaths : ∀ path ∈ env.filePaths, path ≠ "" ∧ reference? path = none

/-! ## Lists between commas -/

theorem Shape.comma_notMem_of_mem_received {values : List (Option String)} {part : String}
    (h : part ∈ list.received values) : ',' ∉ part.toList := by
  obtain ⟨value, _, hp⟩ := List.mem_flatMap.1 h
  cases value with
  | none => cases hp
  | some text => exact Text.notMem_of_mem_pieces hp

theorem ExpansionTree.comma_notMem_includeDirPaths {tree : ExpansionTree registry} {dir : String}
    (h : dir ∈ tree.expansion.settings.includeDirPaths) : ',' ∉ dir.toList := by
  have hget : tree.expansion.settings.includeDirPaths = Shape.list.overall _ :=
    (congrArg (Settings.get · .includeDirPaths) tree.settings_expansion).trans
      (Settings.get_foldl_merge_default _)
  rw [hget, List.map_map] at h
  obtain ⟨values, hv, hm⟩ := List.mem_flatten.1 h
  obtain ⟨v, _, rfl⟩ := List.mem_map.1 hv
  rw [Function.comp_apply, v.get_own_settings] at hm
  exact Shape.comma_notMem_of_mem_received hm

theorem ExpansionTree.comma_notMem_pluginPaths {tree : ExpansionTree registry} {value : String}
    (h : value ∈ tree.pluginPaths) : ',' ∉ value.toList := by
  obtain ⟨v, _, hm⟩ := List.mem_flatMap.1 h
  exact Shape.comma_notMem_of_mem_received hm

/-! ## Names and values of plugins -/

theorem mem_of_mem_baseName {value name : String} {c : Char} (h : Path.baseName? value = some name)
    (hc : c ∈ name.toList) : c ∈ value.toList := by
  have hm : name ∈ Path.names value := List.mem_of_getLast? (Option.filter_eq_some_iff.1 h).1
  exact (Text.mem_of_mem_pieces (List.mem_filter.1 hm).1 hc).1

theorem mem_of_mem_namedPath {value : String} {c : Char}
    (h : c ∈ (namedPath value).1.toList ∨ c ∈ (namedPath value).2.toList) : c ∈ value.toList := by
  rw [namedPath] at h
  match hc : Text.cut '=' value with
  | (name, some path) =>
      rw [hc] at h
      rw [Text.eq_append_of_cut hc]
      simp only [String.toList_append, List.mem_append]
      exact h.imp .inl id
  | (name, none) =>
      rw [hc] at h
      rcases h with h | h
      · cases hb : Path.baseName? value with
        | none => simpa [hb] using h
        | some base => exact mem_of_mem_baseName hb (by simpa [hb] using h)
      · exact h

theorem colon_notMem_of_splitOut {plugin value : String} {parts : Option String × String}
    (h : splitOut plugin value = .ok parts) : ':' ∉ parts.2.toList := by
  have hmem : parts.2 ∈ Text.pieces ':' value := by
    rw [splitOut] at h
    split at h
    · rename_i hp
      cases h
      rw [hp]
      exact List.mem_singleton_self _
    · rename_i hp
      cases h
      rw [hp]
      exact List.mem_cons_of_mem _ (List.mem_singleton_self _)
    · cases h
  exact Text.notMem_of_mem_pieces hmem

theorem Directive.colon_notMem_of_given {d : Directive} {out : String}
    (hd : ∀ fault, .error fault ∉ d.assignments) (h : d.given? .out = some out) :
    d.kind = .out ∧ ':' ∉ out.toList := by
  obtain ⟨plugin, kind, value⟩ := d
  cases kind with
  | opt => cases h
  | out =>
      have hread : PluginPart.out.read (outputParts value).2 = some out := h
      obtain rfl := PluginPart.eq_of_read hread
      refine ⟨rfl, ?_⟩
      cases hs : splitOut plugin value with
      | error fault =>
          refine absurd ?_ (hd fault)
          simp [assignments, DirectiveKind.assignments, outAssignments, hs]
      | ok parts =>
          have hcolon := colon_notMem_of_splitOut hs
          rwa [eq_outputParts_of_splitOut hs] at hcolon

theorem Directive.ne_empty_of_given {d : Directive} {opt : String} (h : d.given? .opt = some opt) :
    opt ≠ "" := by
  obtain ⟨plugin, kind, value⟩ := d
  rintro rfl
  cases kind <;> simp [given?, PluginPart.read] at h

theorem ExpansionTree.isNamed_of_mem {tree : ExpansionTree registry} {d : Directive}
    (h : d ∈ tree.directives) : d.IsNamed := by
  obtain ⟨v, _, hm⟩ := List.mem_flatMap.1 h
  obtain ⟨a, ha, hd⟩ := List.mem_filterMap.1 hm
  cases a with
  | directive d' =>
      cases hd
      exact Argument.isNamed_of_mem_classify v.classify_tokens ha
  | flag => cases hd
  | positional => cases hd

/-! ## Entries -/

namespace PluginTable.Collects

variable {table : PluginTable} {directives : List Directive} {paths : List String}
  {plugin : String} {e : PluginEntry}

theorem exists_of_mem_given {part : PluginPart} {text : String}
    (h : text ∈ directives.filterMap (Directive.givenTo? plugin part)) :
    ∃ d ∈ directives, d.plugin = plugin ∧ d.given? part = some text := by
  obtain ⟨d, hd, hg⟩ := List.mem_filterMap.1 h
  rw [Directive.givenTo?] at hg
  split at hg
  · rename_i hp
    exact ⟨d, hd, hp, hg⟩
  · cases hg

/-- In a table in use every plugin comes from a directive. -/
theorem exists_directive (h : table.Collects directives paths) (ht : table.inactionable? = none)
    (he : table.get? plugin = some e) : ∃ d ∈ directives, d.plugin = plugin := by
  rcases (h.isSome_get?_iff plugin).1 (Option.isSome_of_eq_some he) with hm | hm
  · obtain ⟨d, hd, hp⟩ := List.mem_map.1 hm
    exact ⟨d, hd, hp⟩
  by_cases ho : e.out = ""
  · exact absurd hm ((h.eq_blank_iff he).1 (eq_blank_of_inactionable? ht he ho)).2
  · have hout := h.out_eq he
    rw [if_neg ho] at hout
    obtain ⟨d, hd, hp, _⟩ := exists_of_mem_given (hout ▸ List.mem_singleton_self _)
    exact ⟨d, hd, hp⟩

theorem expressible (h : table.Collects directives paths) (ht : table.inactionable? = none)
    (hd : ∀ d ∈ directives, d.IsNamed ∧ ∀ fault, .error fault ∉ d.assignments)
    (hp : ∀ value ∈ paths, ',' ∉ value.toList) (he : table.get? plugin = some e) :
    e.Expressible plugin := by
  have hout (ho : e.out ≠ "") :
      Directive.IsNamed ⟨plugin, .out, e.out⟩ ∧ ':' ∉ e.out.toList := by
    have hlist := h.out_eq he
    rw [if_neg ho] at hlist
    obtain ⟨d, hm, rfl, hg⟩ := exists_of_mem_given (hlist ▸ List.mem_singleton_self _)
    obtain ⟨hn, hfault⟩ := hd d hm
    obtain ⟨hk, hcolon⟩ := Directive.colon_notMem_of_given hfault hg
    obtain ⟨name, kind, value⟩ := d
    obtain rfl : kind = .out := hk
    exact ⟨⟨hn.ofName_eq, hn.equals_notMem⟩, hcolon⟩
  refine ⟨⟨?_, eq_blank_of_inactionable? ht he⟩, ?_, fun ho => (hout ho).1, ?_, ?_⟩
  · intro hopt
    have hlist := h.opt_eq he
    rw [hopt, Option.toList_some] at hlist
    obtain ⟨d, _, _, hg⟩ := exists_of_mem_given (hlist ▸ List.mem_singleton_self _)
    exact Directive.ne_empty_of_given hg rfl
  · obtain ⟨d, hm, rfl⟩ := h.exists_directive ht he
    exact (hd d hm).1.opt
  · by_cases ho : e.out = ""
    · simp [ho]
    · exact (hout ho).2
  · intro path hpath
    have hlist := h.path_eq he
    rw [hpath, Option.toList_some] at hlist
    obtain ⟨value, hm, hv⟩ := List.mem_filterMap.1 (hlist ▸ List.mem_singleton_self _)
    have hcomma := hp value hm
    rw [pathTo?] at hv
    split at hv
    · rename_i hplugin
      cases hv
      have hname := Text.dropLead?_eq_some_iff.1 hplugin
      refine ⟨fun hc => hcomma ?_, fun hc => hcomma (mem_of_mem_namedPath (.inr hc))⟩
      refine mem_of_mem_namedPath (.inl ?_)
      rw [hname, String.toList_append]
      exact List.mem_append_right _ hc
    · cases hv

end PluginTable.Collects

/-! ## Environments -/

/-- A resolved environment can be given by one vector: no value that came through can be cut or
read otherwise once more. -/
theorem Environment.expressible_of_resolves (h : Resolves files defaults tokens (.ok env)) :
    env.Expressible defaults := by
  obtain ⟨tree, after, ht, ha, ho⟩ := exists_of_resolves h
  obtain ⟨_, hact, hne, errorFormat, _, rfl⟩ := ofExpansion_eq_ok_iff.1 ho
  have hfault := PluginTable.error_notMem_of_record ha.record_eq
  have hdirectives : ∀ d ∈ tree.directives, d.IsNamed ∧ ∀ fault, .error fault ∉ d.assignments := by
    refine fun d hd => ⟨ExpansionTree.isNamed_of_mem hd, fun fault hm => hfault fault ?_⟩
    exact (ExpansionTree.assignments_perm hfault).mem_iff.2
      (List.mem_append_left _ (List.mem_flatMap.2 ⟨d, hd, hm⟩))
  refine ⟨?_, ?_, fun entry hm => ?_, hne, ?_⟩
  · simp only [Defaults.includePathsOr]
    split
    · exact .inl rfl
    · rename_i hgiven
      exact .inr ⟨hgiven, fun dir hm => ExpansionTree.comma_notMem_includeDirPaths hm⟩
  · split
    · nofun
    · rename_i hout
      simpa using hout
  · exact (ExpansionTree.collects_of_admits ha).expressible (checkActionable_eq_ok_iff.1 hact)
      hdirectives (fun value hm => ExpansionTree.comma_notMem_pluginPaths hm)
      (PluginTable.get?_of_mem_entries hm)
  · exact ht.unfold.of_mem_filePaths

end ProtocInvocation
