import Mathlib.Data.List.Perm.Basic
import ProtocInvocation.Proofs.Plugin.Collection

/-!
# A table from its own entries

An entry in use is made by one directive for each of its parts and its path, and a blank one by
options with no value. A table that records these of all its entries, in any order, is the table
again (`PluginTable.record_own`).
-/

namespace ProtocInvocation

open scoped List

/-- What a directive that is not cut assigns to the part of its kind. -/
def Directive.assignment (d : Directive) : Assignment :=
  ⟨d.plugin, d.kind.part, d.value⟩

/-! ## Entries -/

/-- An entry that directives and paths can make: its options are some text, and it is blank unless
it says where the plugin writes. -/
structure PluginEntry.InUse (e : PluginEntry) : Prop where
  opt_ne : e.opt ≠ some ""
  eq_blank : e.out = "" → e = {}

namespace PluginEntry

variable {e : PluginEntry} {plugin : String} {part : PluginPart} {a : Assignment}

/-- The directives that make an entry in use. -/
def directives (plugin : String) (e : PluginEntry) : List Directive :=
  (if e.out = "" then ⟨plugin, .opt, ""⟩ else ⟨plugin, .out, e.out⟩) ::
    e.opt.toList.map fun opt => ⟨plugin, .opt, opt⟩

/-- The explicit path of an entry, behind the name of the plugin's executable. -/
def paths (plugin : String) (e : PluginEntry) : List String :=
  e.path.toList.map fun path => executableLead ++ plugin ++ "=" ++ path

/-- What the explicit path of an entry assigns. -/
def pathAssignments (plugin : String) (e : PluginEntry) : List Assignment :=
  e.path.toList.map fun path => ⟨plugin, .path, path⟩

/-- What the directives and the path of an entry assign. -/
def assignments (plugin : String) (e : PluginEntry) : List Assignment :=
  (e.directives plugin).map Directive.assignment ++ e.pathAssignments plugin

theorem plugin_of_mem_assignments (h : a ∈ e.assignments plugin) : a.plugin = plugin := by
  rcases List.mem_append.1 h with h | h
  · obtain ⟨d, hd, rfl⟩ := List.mem_map.1 h
    rcases List.mem_cons.1 hd with rfl | hd
    · split
      · rfl
      · rfl
    · obtain ⟨opt, _, rfl⟩ := List.mem_map.1 hd
      rfl
  · obtain ⟨path, _, rfl⟩ := List.mem_map.1 h
    rfl

theorem exists_mem_assignments : ∃ a ∈ e.assignments plugin, a.plugin = plugin :=
  ⟨_, List.mem_cons_self, plugin_of_mem_assignments List.mem_cons_self⟩

theorem assignments_blank : ({} : PluginEntry).assignments plugin = [⟨plugin, .opt, ""⟩] := rfl

theorem assignments_of_out (h : e.out ≠ "") : e.assignments plugin =
    ⟨plugin, .out, e.out⟩ ::
      ((e.opt.toList.map fun opt => ⟨plugin, .opt, opt⟩) ++ e.pathAssignments plugin) := by
  rw [assignments, directives, if_neg h]
  cases e.opt <;> rfl

theorem pairwise_assignments (h : e.InUse) :
    (e.assignments plugin).Pairwise fun a b => ¬a.SamePart b := by
  by_cases ho : e.out = ""
  · rw [h.eq_blank ho, assignments_blank]
    exact List.pairwise_singleton _ _
  · rw [assignments_of_out ho, pathAssignments]
    cases e.opt <;> cases e.path <;> simp [Assignment.SamePart]

theorem filterMap_assignments (h : e.InUse) :
    (e.assignments plugin).filterMap (Assignment.givenTo? plugin part) =
      (e.value? part).toList := by
  by_cases ho : e.out = ""
  · rw [h.eq_blank ho, assignments_blank, value?_blank]
    cases part <;> simp [Assignment.givenTo?, Assignment.given?, PluginPart.read]
  · obtain ⟨out, opt, path⟩ := e
    have hopt : ∀ text, opt = some text → text ≠ "" := by
      rintro text rfl rfl
      exact h.opt_ne rfl
    rw [assignments_of_out ho, pathAssignments]
    cases part <;> cases opt <;> cases path <;>
      simp_all [Assignment.givenTo?, Assignment.given?, PluginPart.read, value?]

end PluginEntry

/-! ## Tables -/

namespace PluginTable

variable {table : PluginTable} {plugin : String} {part : PluginPart}

/-- The directives of all entries. -/
def directives (table : PluginTable) : List Directive :=
  table.entries.flatMap fun entry => entry.2.directives entry.1

/-- The explicit paths of all entries. -/
def paths (table : PluginTable) : List String :=
  table.entries.flatMap fun entry => entry.2.paths entry.1

/-- What the directives and paths of all entries assign. -/
def assignments (table : PluginTable) : List Assignment :=
  table.entries.flatMap fun entry => entry.2.assignments entry.1

/-- A list that only one plugin has a part in is what its entry has. -/
theorem flatMap_entries {β : Type} {f : String × PluginEntry → List β}
    (hf : ∀ entry ∈ table.entries, entry.1 ≠ plugin → f entry = []) :
    table.entries.flatMap f = (table.get? plugin).toList.flatMap fun e => f (plugin, e) := by
  obtain ⟨entries, ascending⟩ := table
  change entries.flatMap f = (entries.lookup plugin).toList.flatMap fun e => f (plugin, e)
  induction entries with
  | nil => rfl
  | cons first later ih =>
      obtain ⟨hlt, ascending⟩ := List.pairwise_cons.1 ascending
      rw [lookup_cons, List.flatMap_cons]
      split
      · rename_i hp
        have hlater : later.flatMap f = [] := List.flatMap_eq_nil_iff.2 fun entry hm =>
          hf entry (List.mem_cons_of_mem _ hm) (hp ▸ String.ne_of_lt (hlt entry hm)).symm
        simp [hlater, hp]
      · rename_i hp
        rw [hf first List.mem_cons_self (Ne.symm hp), List.nil_append]
        exact ih ascending fun entry hm => hf entry (List.mem_cons_of_mem _ hm)

theorem get?_of_mem_entries {e : PluginEntry} (h : (plugin, e) ∈ table.entries) :
    table.get? plugin = some e := by
  have hmem : e ∈ table.entries.flatMap fun entry =>
      if entry.1 = plugin then [entry.2] else [] := List.mem_flatMap.2 ⟨_, h, by simp⟩
  rw [flatMap_entries fun entry _ hne => if_neg hne] at hmem
  simpa using hmem

theorem isSome_get?_iff :
    (table.get? plugin).isSome ↔ ∃ a ∈ table.assignments, a.plugin = plugin := by
  constructor
  · intro h
    obtain ⟨e, he⟩ := Option.isSome_iff_exists.1 h
    obtain ⟨a, ha, hp⟩ := e.exists_mem_assignments
    exact ⟨a, List.mem_flatMap.2 ⟨_, mem_entries_of_get? he, ha⟩, hp⟩
  · rintro ⟨a, ha, rfl⟩
    obtain ⟨entry, hm, ha⟩ := List.mem_flatMap.1 ha
    rw [PluginEntry.plugin_of_mem_assignments ha, get?_of_mem_entries hm]
    rfl

theorem pairwise_assignments (h : ∀ entry ∈ table.entries, entry.2.InUse) :
    table.assignments.Pairwise fun a b => ¬a.SamePart b := by
  rw [assignments, List.pairwise_flatMap]
  refine ⟨fun entry hm => PluginEntry.pairwise_assignments (h entry hm), ?_⟩
  refine table.ascending.imp fun {first second} hlt a ha b hb hs => String.ne_of_lt hlt ?_
  rw [← PluginEntry.plugin_of_mem_assignments ha, ← PluginEntry.plugin_of_mem_assignments hb]
  exact hs.1

theorem filterMap_assignments (h : ∀ entry ∈ table.entries, entry.2.InUse) :
    table.assignments.filterMap (Assignment.givenTo? plugin part) =
      (table.value? plugin part).toList := by
  rw [assignments, List.filterMap_flatMap, flatMap_entries]
  · cases he : table.get? plugin with
    | none => simp [value?, entry, he, PluginEntry.value?_blank]
    | some e =>
        rw [value?_of_get? he]
        simpa using PluginEntry.filterMap_assignments (h _ (mem_entries_of_get? he))
  · intro entry _ hne
    refine List.filterMap_eq_nil_iff.2 fun a ha => if_neg fun hs => hne ?_
    rw [← hs.1, PluginEntry.plugin_of_mem_assignments ha]

theorem assignments_perm : table.directives.map Directive.assignment ++
    table.entries.flatMap (fun entry => entry.2.pathAssignments entry.1) ~ table.assignments := by
  rw [directives, List.map_flatMap]
  exact List.flatMap_append_perm _ _ _

theorem nodup_directives (h : ∀ entry ∈ table.entries, entry.2.InUse) :
    (table.directives.map Directive.key).Nodup := by
  have hpair := (assignments_perm.pairwise_iff fun hab hba => hab ⟨hba.1.symm, hba.2.symm⟩).2
    (pairwise_assignments h)
  rw [List.Nodup, List.pairwise_map]
  refine (List.pairwise_map.1 (List.pairwise_append.1 hpair).1).imp fun hne hk => hne ?_
  obtain ⟨hp, hkind⟩ := Prod.mk.inj hk
  exact ⟨hp, congrArg DirectiveKind.part hkind⟩

/-- A table that records what makes all entries of another, in any order, is that table. -/
theorem record_own {given : List (Except Fault Assignment)}
    (h : ∀ entry ∈ table.entries, entry.2.InUse) (hg : given ~ table.assignments.map .ok) :
    empty.record given = (.ok (), table) := by
  have hfault : ∀ fault, .error fault ∉ given := fun fault hm => by simpa using hg.mem_iff.1 hm
  obtain ⟨made, rfl⟩ := exists_map_ok_of_error_notMem hfault
  have hmade : made ~ table.assignments := (List.map_perm_map_iff fun _ _ => Except.ok.inj).1 hg
  obtain ⟨after, hr⟩ : ∃ after, made.foldlM assign empty = .ok after := by
    refine exists_foldlM_assign_iff.2 ⟨fun a _ => PluginEntry.value?_blank, ?_⟩
    have hpair := (hmade.pairwise_iff fun hab hba => hab ⟨hba.1.symm, hba.2.symm⟩).2
      (pairwise_assignments h)
    exact hpair.imp fun hne hs => absurd hs hne
  have hrecord : empty.record (made.map .ok) = (.ok (), after) := record_eq_ok_iff.2 ⟨made, rfl, hr⟩
  obtain rfl : after = table := by
    refine ext_value? (fun plugin => ?_) fun plugin part => ?_
    · rw [isSome_get?_of_record hrecord, isSome_get?_iff]
      simp [hmade.mem_iff]
    · have hperm : made.filterMap (Assignment.givenTo? plugin part) ~
          (table.value? plugin part).toList := filterMap_assignments h ▸ hmade.filterMap _
      have hafter : (after.value? plugin part).toList = _ := toList_value?_append hr
      have hnone : empty.value? plugin part = none := PluginEntry.value?_blank
      rw [hnone, eq_toList_of_perm hperm] at hafter
      simpa using congrArg List.head? hafter
  exact hrecord

end PluginTable

end ProtocInvocation
