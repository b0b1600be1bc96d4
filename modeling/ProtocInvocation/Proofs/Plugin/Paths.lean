import Mathlib.Data.List.Pairwise
import ProtocInvocation.Proofs.File.Path
import ProtocInvocation.Proofs.Plugin.Collection

/-!
# Explicit plugin paths

An explicit plugin path stands for an executable by a name of its own or by what it ends in
(`StandsFor`). A table takes such paths exactly if each is of a plugin, no two are of the same one,
and no plugin that one is of has a path (`PluginTable.HasRoomForPaths`). If it does not, it refuses
the first path that does not fit (`PluginTable.RefusesPath`) and keeps those before it. Main
statements: `PluginTable.record_paths`, and `PluginTable.record_barePath` of a path without a name.
-/

namespace ProtocInvocation

open ProtocInvocation.Path (EndsIn IsName names baseName?)

/-! ## Executables -/

/-- The executable that an explicit plugin path stands for, by its name and its path: what comes
before the first equals sign and what comes behind it, or else the name that it ends in and itself.
A path that ends in no name or in that of the directory above is taken for a name as a whole. -/
inductive StandsFor : String → String → String → Prop
  | named {name path} : '=' ∉ name.toList → StandsFor (name ++ "=" ++ path) name path
  | bare {value name} : '=' ∉ value.toList → EndsIn value name → name ≠ ".." →
      StandsFor value name value
  | whole {value} : '=' ∉ value.toList → (∀ name, EndsIn value name → name = "..") →
      StandsFor value value value

/-- Whether an explicit plugin path gives a plugin this path. -/
def IsPathOf (plugin path value : String) : Prop :=
  StandsFor value (executableLead ++ plugin) path

variable {plugin path name value : String} {a : Assignment}

theorem namedPath_of_notMem (h : '=' ∉ value.toList) :
    namedPath value = ((baseName? value).getD value, value) := by
  rw [namedPath, Text.cut_of_notMem h]

theorem standsFor_iff : StandsFor value name path ↔ namedPath value = (name, path) := by
  constructor
  · intro h
    cases h with
    | @named name path h =>
        have hcut : Text.cut '=' (name ++ "=" ++ path) = (name, some path) := Text.cut_append h
        rw [namedPath, hcut]
    | bare h he hn =>
        rw [namedPath_of_notMem h, Path.baseName?_eq_some_iff.2 ⟨he, hn⟩, Option.getD_some]
    | whole h he => rw [namedPath_of_notMem h, Path.baseName?_eq_none_iff.2 he, Option.getD_none]
  · intro h
    match hc : Text.cut '=' value with
    | (first, some rest) =>
        rw [namedPath, hc] at h
        obtain ⟨rfl, rfl⟩ := Prod.mk.inj h
        rw [Text.eq_append_of_cut hc]
        exact .named (Text.notMem_of_cut hc)
    | (first, none) =>
        obtain rfl := Text.eq_of_cut hc
        have hnot := Text.notMem_of_cut hc
        rw [namedPath_of_notMem hnot] at h
        obtain ⟨rfl, rfl⟩ := Prod.mk.inj h
        cases hb : baseName? first with
        | some name =>
            obtain ⟨he, hn⟩ := Path.baseName?_eq_some_iff.1 hb
            exact .bare hnot he hn
        | none => exact .whole hnot (Path.baseName?_eq_none_iff.1 hb)

theorem isPathOf_iff : IsPathOf plugin path value ↔
    pathPlugin? value = some plugin ∧ (namedPath value).2 = path := by
  rw [IsPathOf, standsFor_iff, pathPlugin?_eq_some_iff, Prod.ext_iff]

theorem isPathOf_iff_pathTo? : IsPathOf plugin path value ↔ pathTo? plugin value = some path := by
  simp [isPathOf_iff, pathTo?]

theorem isPathOf_iff_pathAssignment :
    IsPathOf plugin path value ↔ pathAssignment value = .ok ⟨plugin, .path, path⟩ := by
  rw [isPathOf_iff]
  constructor
  · rintro ⟨h, rfl⟩
    exact pathAssignment_of_pathPlugin? h
  · intro h
    obtain ⟨hp, ha⟩ := eq_of_pathAssignment h
    exact ⟨hp, (congrArg Assignment.value ha).symm⟩

theorem pathAssignment_eq_ok_iff :
    pathAssignment value = .ok a ↔ a.part = .path ∧ IsPathOf a.plugin a.value value := by
  rw [isPathOf_iff_pathAssignment]
  constructor
  · intro h
    have hpart : a.part = .path := congrArg Assignment.part (eq_of_pathAssignment h).2
    exact ⟨hpart, by rw [h, ← hpart]⟩
  · rintro ⟨hpart, h⟩
    rw [h, ← hpart]

/-- Two paths may both be recorded if they are of different plugins. -/
theorem onValues_pathAssignment_iff {other : String} :
    OnValues (fun a b => a.SamePart b → a.given? = none) (pathAssignment value)
        (pathAssignment other) ↔
      ∀ plugin path path', IsPathOf plugin path value → ¬IsPathOf plugin path' other := by
  constructor
  · intro h plugin path path' hv ho
    cases h _ _ (isPathOf_iff_pathAssignment.1 hv) (isPathOf_iff_pathAssignment.1 ho) ⟨rfl, rfl⟩
  · intro h a b ha hb hs
    exact absurd (hs.1 ▸ (pathAssignment_eq_ok_iff.1 hb).2)
      (h _ _ _ (pathAssignment_eq_ok_iff.1 ha).2)

namespace PluginTable

variable {table after : PluginTable} {values : List String} {fault : Fault}

/-! ## Room -/

/-- A table has room for explicit plugin paths: each is of a plugin, no two are of the same one, and
no plugin that one is of has a path. -/
structure HasRoomForPaths (table : PluginTable) (values : List String) : Prop where
  ne_empty : ∀ value ∈ values, value ≠ ""
  named : ∀ value ∈ values, ∃ plugin path, IsPathOf plugin path value
  apart : values.Pairwise fun value other =>
    ∀ plugin path path', IsPathOf plugin path value → ¬IsPathOf plugin path' other
  free : ∀ value ∈ values, ∀ plugin path, IsPathOf plugin path value →
    (table.entry plugin).path = none

/-- Why a table refuses an explicit plugin path. -/
inductive RefusesPath (table : PluginTable) : String → Fault → Prop
  | empty : table.RefusesPath "" .emptyPluginPath
  | unnamed {value name path : String} : value ≠ "" → StandsFor value name path →
      (∀ plugin, name ≠ executableLead ++ plugin) → table.RefusesPath value (.notPluginName name)
  | taken {value plugin path : String} : IsPathOf plugin path value →
      (table.entry plugin).path ≠ none → table.RefusesPath value (.duplicatePluginPath plugin)

theorem exists_record_paths_iff :
    (∃ after, table.record (values.map pathAssignment) = (.ok (), after)) ↔
      table.HasRoomForPaths values := by
  rw [exists_record_iff, List.pairwise_map,
    List.Pairwise.iff fun _ _ => onValues_pathAssignment_iff]
  constructor
  · rintro ⟨hfault, hfree, hp⟩
    refine ⟨?_, fun value hm => ?_, hp, fun value hm plugin path hv => ?_⟩
    · rintro _ hm rfl
      obtain ⟨a, ha⟩ := exists_ok_of_error_notMem_map hfault hm
      cases ha
    · obtain ⟨a, ha⟩ := exists_ok_of_error_notMem_map hfault hm
      exact ⟨_, _, (pathAssignment_eq_ok_iff.1 ha).2⟩
    · exact hfree _ (List.mem_map.2 ⟨value, hm, isPathOf_iff_pathAssignment.1 hv⟩)
  · rintro ⟨-, hnamed, hp, hfree⟩
    refine ⟨fun fault he => ?_, fun a ha => ?_, hp⟩
    · obtain ⟨value, hm, hv⟩ := List.mem_map.1 he
      obtain ⟨plugin, path, hpath⟩ := hnamed value hm
      rw [isPathOf_iff_pathAssignment.1 hpath] at hv
      cases hv
    · obtain ⟨value, hm, hv⟩ := List.mem_map.1 ha
      obtain ⟨hpart, hpath⟩ := pathAssignment_eq_ok_iff.1 hv
      rw [hpart]
      exact hfree value hm _ _ hpath

/-- A table refuses a path if that is a fault itself or its assignment is refused. -/
theorem refusesPath_iff : table.RefusesPath value fault ↔ pathAssignment value = .error fault ∨
    ∃ a, pathAssignment value = .ok a ∧ table.assign a = .error fault := by
  constructor
  · intro h
    cases h with
    | empty => exact .inl rfl
    | @unnamed _ name path hne hs hn =>
        obtain rfl : (namedPath value).1 = name := congrArg Prod.fst (standsFor_iff.1 hs)
        refine .inl (pathAssignment_eq_error_iff.2 (.inr ⟨hne, ?_, rfl⟩))
        exact Option.eq_none_iff_forall_ne_some.2 fun plugin hp =>
          hn plugin (pathPlugin?_eq_some_iff.1 hp)
    | taken hp ht =>
        exact .inr ⟨_, isPathOf_iff_pathAssignment.1 hp, assign_eq_error_iff.2 ⟨ht, rfl⟩⟩
  · rintro (h | ⟨a, ha, h⟩)
    · rcases pathAssignment_eq_error_iff.1 h with ⟨rfl, rfl⟩ | ⟨hne, hn, rfl⟩
      · exact .empty
      · refine .unnamed hne (standsFor_iff.2 rfl) fun plugin hp => ?_
        rw [pathPlugin?_eq_some_iff.2 hp] at hn
        cases hn
    · obtain ⟨hpart, hpath⟩ := pathAssignment_eq_ok_iff.1 ha
      rw [assign_eq_error_iff, hpart] at h
      obtain ⟨ht, rfl⟩ := h
      exact .taken hpath ht

theorem record_paths_eq_error_iff :
    table.record (values.map pathAssignment) = (.error fault, after) ↔
      ∃ earlier value later, values = earlier ++ value :: later ∧
        table.record (earlier.map pathAssignment) = (.ok (), after) ∧
        after.RefusesPath value fault := by
  rw [record_eq_error_iff]
  constructor
  · rintro ⟨_, _, _, hs, hr, hx⟩
    obtain ⟨earlier, rest, rfl, rfl, he⟩ := List.map_eq_append_iff.1 hs
    obtain ⟨value, later, rfl, rfl, rfl⟩ := List.map_eq_cons_iff.1 he
    exact ⟨earlier, value, later, rfl, hr, refusesPath_iff.2 hx⟩
  · rintro ⟨earlier, value, later, rfl, hr, hx⟩
    exact ⟨_, _, later.map pathAssignment, by rw [List.map_append, List.map_cons], hr,
      refusesPath_iff.1 hx⟩

/-! ## Entries behind paths -/

section Recorded

variable (h : table.record (values.map pathAssignment) = (.ok (), after))
include h

theorem toList_value?_of_record_paths {part : PluginPart} :
    (after.value? plugin part).toList = (table.value? plugin part).toList ++
      if part = .path then values.filterMap (pathTo? plugin) else [] := by
  rw [toList_value?_append_record h, filterMap_map_pathAssignment fun _ =>
    exists_ok_of_error_notMem_map (error_notMem_of_record h)]

theorem value?_of_record_paths {part : PluginPart} (hpart : part ≠ .path) :
    after.value? plugin part = table.value? plugin part := by
  have hadded : after.value? plugin part = _ := eq_or_of_toList_eq (toList_value?_of_record_paths h)
  rw [hadded, if_neg hpart]
  rfl

theorem value?_path_of_record_paths (hm : value ∈ values) (hp : IsPathOf plugin path value) :
    after.value? plugin .path = some path := by
  refine Option.mem_toList.1 ?_
  rw [toList_value?_of_record_paths h, if_pos rfl]
  exact List.mem_append_right _ (List.mem_filterMap.2 ⟨value, hm, isPathOf_iff_pathTo?.1 hp⟩)

theorem get?_of_isPathOf (hm : value ∈ values) (hp : IsPathOf plugin path value) :
    after.get? plugin = some { table.entry plugin with path := some path } := by
  have ha := List.mem_map.2 ⟨value, hm, isPathOf_iff_pathAssignment.1 hp⟩
  refine get?_eq_of_entry_eq (PluginEntry.ext_value? fun part => ?_)
    ((isSome_get?_append_record h).2 (.inr ⟨_, ha, rfl⟩))
  cases part with
  | path => exact value?_path_of_record_paths h hm hp
  | _ => exact value?_of_record_paths h (by simp)

theorem get?_of_not_isPathOf (hn : ∀ value ∈ values, ∀ path, ¬IsPathOf plugin path value) :
    after.get? plugin = table.get? plugin := by
  have hnone : values.filterMap (pathTo? plugin) = [] :=
    List.filterMap_eq_nil_iff.2 fun value hm => Option.eq_none_iff_forall_ne_some.2 fun path hp =>
      hn value hm path (isPathOf_iff_pathTo?.2 hp)
  have hsome : (after.get? plugin).isSome ↔ _ := isSome_get?_append_record h
  refine get?_eq_get?_of_entry_eq (PluginEntry.ext_value? fun part => ?_)
    (hsome.trans (or_iff_left ?_))
  · have hadded : after.value? plugin part = _ :=
      eq_or_of_toList_eq (toList_value?_of_record_paths h)
    rw [hnone, ite_self] at hadded
    exact hadded
  · rintro ⟨a, ha, rfl⟩
    obtain ⟨value, hm, hv⟩ := List.mem_map.1 ha
    exact hn value hm _ (pathAssignment_eq_ok_iff.1 hv).2

end Recorded

/-- A table takes explicit plugin paths if and only if it has room for them. Then they are the paths
of their plugins, and all else is as it was. Otherwise the fault is that of the first path that is
refused, and the table is as the paths before that leave it. -/
theorem record_paths (table : PluginTable) (values : List String) :
    ((∃ after, table.record (values.map pathAssignment) = (.ok (), after)) ↔
      table.HasRoomForPaths values) ∧
    (∀ after plugin, table.record (values.map pathAssignment) = (.ok (), after) →
      (∀ value ∈ values, ∀ path, IsPathOf plugin path value →
        after.get? plugin = some { table.entry plugin with path := some path }) ∧
      ((∀ value ∈ values, ∀ path, ¬IsPathOf plugin path value) →
        after.get? plugin = table.get? plugin)) ∧
    (∀ fault after, table.record (values.map pathAssignment) = (.error fault, after) ↔
      ∃ earlier value later, values = earlier ++ value :: later ∧
        table.record (earlier.map pathAssignment) = (.ok (), after) ∧
        after.RefusesPath value fault) :=
  ⟨exists_record_paths_iff,
    fun _ _ h => ⟨fun _ hm _ hp => get?_of_isPathOf h hm hp, get?_of_not_isPathOf h⟩,
    fun _ _ => record_paths_eq_error_iff⟩

/-- Explicit plugin paths with a name and without, of which one ends in a single dot. Then two of
one plugin, the first of them empty. -/
theorem record_paths_conflicting :
    (empty.insert "go" { out := "gen" }).HasRoomForPaths
        ["protoc-gen-ts=a=b", "bin//protoc-gen-go/."] ∧
      (empty.insert "go" { out := "gen" }).record
          (["protoc-gen-ts=a=b", "bin//protoc-gen-go/."].map pathAssignment) =
        (.ok (), (empty.insert "go" ⟨"gen", none, some "bin//protoc-gen-go/."⟩).insert "ts"
          ⟨"", none, some "a=b"⟩) ∧
      IsPathOf "go" "bin//protoc-gen-go/." "bin//protoc-gen-go/." ∧
      ((empty.insert "go" ⟨"gen", none, some "bin//protoc-gen-go/."⟩).insert "ts"
          ⟨"", none, some "a=b"⟩).get? "go" =
        some { (empty.insert "go" { out := "gen" }).entry "go" with
          path := some "bin//protoc-gen-go/." } ∧
      empty.record (["protoc-gen-go=", "bin/protoc-gen-go", ""].map pathAssignment) =
        (.error (.duplicatePluginPath "go"), empty.insert "go" { path := some "" }) ∧
      ∃ earlier value later,
        ["protoc-gen-go=", "bin/protoc-gen-go", ""] = earlier ++ value :: later ∧
        empty.record (earlier.map pathAssignment) =
          (.ok (), empty.insert "go" { path := some "" }) ∧
        (empty.insert "go" { path := some "" }).RefusesPath value (.duplicatePluginPath "go") := by
  have hr : (empty.insert "go" { out := "gen" }).record
      (["protoc-gen-ts=a=b", "bin//protoc-gen-go/."].map pathAssignment) =
        (.ok (), (empty.insert "go" ⟨"gen", none, some "bin//protoc-gen-go/."⟩).insert "ts"
          ⟨"", none, some "a=b"⟩) := by decide +kernel
  have hp : IsPathOf "go" "bin//protoc-gen-go/." "bin//protoc-gen-go/." :=
    isPathOf_iff_pathTo?.2 (by decide +kernel)
  have he : empty.record (["protoc-gen-go=", "bin/protoc-gen-go", ""].map pathAssignment) =
      (.error (.duplicatePluginPath "go"), empty.insert "go" { path := some "" }) := by
    decide +kernel
  exact ⟨(record_paths _ _).1.1 ⟨_, hr⟩, hr, hp,
    ((record_paths _ _).2.1 _ "go" hr).1 _ (by decide +kernel) _ hp, he,
    ((record_paths _ _).2.2 _ _).1 he⟩

end PluginTable

/-! ## Paths without a name -/

theorem executableLead_append_ne_dots (plugin : String) : executableLead ++ plugin ≠ ".." := by
  intro h
  simpa [executableLead] using congrArg String.toList h

theorem isName_executableLead_append (h : '/' ∉ plugin.toList) :
    IsName (executableLead ++ plugin) := by
  refine ⟨by simpa [executableLead] using h, fun he => ?_, fun he => ?_⟩
  · simpa [executableLead] using congrArg String.toList he
  · simpa [executableLead] using congrArg String.toList he

theorem exists_endsIn_executableLead_append (plugin : String) :
    ∃ name, EndsIn (executableLead ++ plugin) name := by
  induction plugin using Text.cut_induction '/' with
  | hw plugin h => exact ⟨_, .alone (isName_executableLead_append h)⟩
  | hc first rest h _ =>
      change ∃ name, EndsIn (executableLead ++ (first ++ "/" ++ rest)) name
      rw [Path.exists_endsIn_iff, ← String.append_assoc, ← String.append_assoc, Path.names_append,
        (isName_executableLead_append h).names_eq]
      exact List.cons_ne_nil _ _

theorem standsFor_iff_of_notMem (h : '=' ∉ value.toList) : StandsFor value name path ↔
    path = value ∧ ((EndsIn value name ∧ name ≠ "..") ∨
      (value = name ∧ ∀ last, EndsIn value last → last = "..")) := by
  constructor
  · intro hs
    cases hs with
    | named _ => simp at h
    | bare _ he hn => exact ⟨rfl, .inl ⟨he, hn⟩⟩
    | whole _ hn => exact ⟨rfl, .inr ⟨rfl, hn⟩⟩
  · rintro ⟨rfl, ⟨he, hn⟩ | ⟨rfl, hn⟩⟩
    · exact .bare h he hn
    · exact .whole h hn

/-- A path without a name is of the plugin whose executable it ends in. Only one that ends in the
directory above can be of a plugin otherwise, and begins with the lead of executables then. -/
theorem isPathOf_iff_of_notMem (h : '=' ∉ value.toList) : IsPathOf plugin path value ↔
    path = value ∧ (EndsIn value (executableLead ++ plugin) ∨
      (EndsIn value ".." ∧ value = executableLead ++ plugin)) := by
  rw [IsPathOf, standsFor_iff_of_notMem h]
  refine and_congr_right fun _ => or_congr (and_iff_left (executableLead_append_ne_dots plugin)) ?_
  constructor
  · rintro ⟨rfl, hn⟩
    obtain ⟨last, he⟩ := exists_endsIn_executableLead_append plugin
    obtain rfl := hn last he
    exact ⟨he, rfl⟩
  · rintro ⟨he, rfl⟩
    exact ⟨rfl, fun last hl => hl.unique he⟩

/-- Only a name that was taken from a whole path is cut by a slash. -/
theorem slash_mem_of_endsIn_dots (h : EndsIn (executableLead ++ plugin) "..") :
    '/' ∈ plugin.toList := by
  by_contra hs
  exact executableLead_append_ne_dots plugin
    ((EndsIn.alone (isName_executableLead_append hs)).unique h)

theorem slash_notMem_of_endsIn (h : EndsIn value (executableLead ++ plugin)) :
    '/' ∉ plugin.toList := by
  have hname := h.isName.1
  simp only [String.toList_append, List.mem_append, not_or] at hname
  exact hname.2

namespace PluginTable

/-- An explicit plugin path without a name is recorded for the plugin whose executable it ends in,
and the name of that has no slash. It is refused if it ends in anything else, unless it ends in the
directory above and begins with the lead of executables: then all that follows the lead is the name
of its plugin, with its slashes. -/
theorem record_barePath (table : PluginTable) (value : String) (h : '=' ∉ value.toList) :
    (∀ (values : List String) after, value ∈ values →
      table.record (values.map pathAssignment) = (.ok (), after) →
      ∃ plugin, (table.entry plugin).path = none ∧ (after.entry plugin).path = some value ∧
        (EndsIn value (executableLead ++ plugin) ∧ '/' ∉ plugin.toList ∨
          EndsIn value ".." ∧ value = executableLead ++ plugin ∧ '/' ∈ plugin.toList)) ∧
    (value ≠ "" → (∀ plugin, ¬EndsIn value (executableLead ++ plugin)) →
      (EndsIn value ".." → ∀ plugin, value ≠ executableLead ++ plugin) →
      ∀ earlier later between, table.record (earlier.map pathAssignment) = (.ok (), between) →
        ∃ name, table.record ((earlier ++ value :: later).map pathAssignment) =
          (.error (.notPluginName name), between)) := by
  constructor
  · intro values after hm hr
    obtain ⟨-, hnamed, -, hfree⟩ := exists_record_paths_iff.1 ⟨after, hr⟩
    obtain ⟨plugin, path, hp⟩ := hnamed value hm
    have hpath := value?_path_of_record_paths hr hm hp
    obtain ⟨rfl, hends⟩ := (isPathOf_iff_of_notMem h).1 hp
    refine ⟨plugin, hfree _ hm plugin _ hp, hpath, ?_⟩
    rcases hends with he | ⟨he, rfl⟩
    · exact .inl ⟨he, slash_notMem_of_endsIn he⟩
    · exact .inr ⟨he, rfl, slash_mem_of_endsIn_dots he⟩
  · intro hne hends hdots earlier later between hr
    refine ⟨(namedPath value).1, record_paths_eq_error_iff.2 ⟨earlier, value, later, rfl, hr, ?_⟩⟩
    refine .unnamed hne (standsFor_iff.2 rfl) fun plugin hp => ?_
    have hpath : IsPathOf plugin (namedPath value).2 value :=
      isPathOf_iff.2 ⟨pathPlugin?_eq_some_iff.2 hp, rfl⟩
    rcases (isPathOf_iff_of_notMem h).1 hpath with ⟨_, he | ⟨he, hv⟩⟩
    · exact hends plugin he
    · exact hdots he plugin hv

/-- A path that leads back from the executable of `x`, which is recorded for the plugin `x/..`, and
one that ends in no executable. -/
theorem record_barePath_upward :
    '=' ∉ "protoc-gen-x/..".toList ∧
      empty.record (["protoc-gen-x/.."].map pathAssignment) =
        (.ok (), empty.insert "x/.." { path := some "protoc-gen-x/.." }) ∧
      (∃ plugin, (empty.entry plugin).path = none ∧
        ((empty.insert "x/.." { path := some "protoc-gen-x/.." }).entry plugin).path =
          some "protoc-gen-x/.." ∧
        (EndsIn "protoc-gen-x/.." (executableLead ++ plugin) ∧ '/' ∉ plugin.toList ∨
          EndsIn "protoc-gen-x/.." ".." ∧ "protoc-gen-x/.." = executableLead ++ plugin ∧
            '/' ∈ plugin.toList)) ∧
      '=' ∉ "protoc-gen-a/../bin//./".toList ∧
      EndsIn "protoc-gen-a/../bin//./" "bin" ∧
      ∃ name, empty.record
          ((["protoc-gen-a"] ++ "protoc-gen-a/../bin//./" :: [""]).map pathAssignment) =
        (.error (.notPluginName name), empty.insert "a" { path := some "protoc-gen-a" }) := by
  have hr : empty.record (["protoc-gen-x/.."].map pathAssignment) =
      (.ok (), empty.insert "x/.." { path := some "protoc-gen-x/.." }) := by decide +kernel
  have he : empty.record (["protoc-gen-a"].map pathAssignment) =
      (.ok (), empty.insert "a" { path := some "protoc-gen-a" }) := by decide +kernel
  have hbin : EndsIn "protoc-gen-a/../bin//./" "bin" := Path.endsIn_iff.2 (by decide +kernel)
  have hlead (plugin : String) : "bin" ≠ executableLead ++ plugin := fun h => by
    have hdrop : Text.dropLead? executableLead "bin" = none := by decide +kernel
    rw [Text.dropLead?_eq_some_iff.2 h] at hdrop
    cases hdrop
  have hnot : '=' ∉ "protoc-gen-x/..".toList := by decide +kernel
  have hnot' : '=' ∉ "protoc-gen-a/../bin//./".toList := by decide +kernel
  exact ⟨hnot, hr, (record_barePath _ _ hnot).1 _ _ List.mem_cons_self hr, hnot', hbin,
    (record_barePath _ _ hnot').2 (by decide +kernel) (fun plugin h => hlead plugin (hbin.unique h))
      (fun h => absurd (hbin.unique h) (by decide +kernel)) _ _ _ he⟩

end PluginTable

end ProtocInvocation
