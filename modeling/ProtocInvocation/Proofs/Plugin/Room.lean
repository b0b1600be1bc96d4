import Mathlib.Data.List.Pairwise
import ProtocInvocation.Proofs.Plugin.Order

/-!
# Room for directives

A directive assigns to the part of its kind, and one for the output also to the options if it has
some before its colon (`Directive.AssignsTo`). A table takes the directives of a vector exactly if
no two of them assign to one part and each part is free (`PluginTable.HasRoomFor`). An entry then
holds what its directives say, and what they leave open stays as it was (`PluginEntry.told`). Main
statement: `PluginTable.record_directives`.
-/

namespace ProtocInvocation

open scoped List

/-! ## What directives assign to -/

namespace Directive

variable {d : Directive} {plugin value : String} {part : PluginPart}

/-- Whether a directive assigns to this part of its plugin. -/
def AssignsTo (d : Directive) (part : PluginPart) : Prop :=
  part = d.kind.part ∨ d.given? part ≠ none

theorem assignsTo_opt_iff : AssignsTo ⟨plugin, .opt, value⟩ part ↔ part = .opt := by
  cases part <;> simp [AssignsTo, DirectiveKind.part, given?]

theorem assignsTo_out_iff : AssignsTo ⟨plugin, .out, value⟩ part ↔
    part = .out ∨ (part = .opt ∧ (outputParts value).1 ≠ "") := by
  cases part <;> simp [AssignsTo, DirectiveKind.part, given?, PluginPart.read]

/-- Whether two directives assign to the same part of the same plugin. -/
def Meets (d e : Directive) : Prop :=
  d.plugin = e.plugin ∧ ∃ part, d.AssignsTo part ∧ e.AssignsTo part

theorem Meets.symm {e : Directive} (h : d.Meets e) : e.Meets d := by
  obtain ⟨hplugin, part, hd, he⟩ := h
  exact ⟨hplugin.symm, part, he, hd⟩

instance : Std.Symm fun d e : Directive => ¬d.Meets e where
  symm _ _ h hm := h hm.symm

theorem meets_of_key_eq {e : Directive} (h : d.key = e.key) : d.Meets e := by
  obtain ⟨hplugin, hkind⟩ := Prod.mk.inj h
  exact ⟨hplugin, d.kind.part, .inl rfl, .inl (congrArg DirectiveKind.part hkind)⟩

theorem out_meets_opt_iff {options : String} :
    Meets ⟨plugin, .out, value⟩ ⟨plugin, .opt, options⟩ ↔ (outputParts value).1 ≠ "" := by
  simp [Meets, assignsTo_out_iff, assignsTo_opt_iff]

theorem not_meets_iff {e : Directive} (hd : ∀ fault, .error fault ∉ d.assignments)
    (he : ∀ fault, .error fault ∉ e.assignments) :
    ¬d.Meets e ↔
      ∀ x ∈ d.assignments, ∀ y ∈ e.assignments, OnValues (fun a b => ¬a.SamePart b) x y := by
  constructor
  · rintro h _ hx _ hy a b rfl rfl ⟨hplugin, hpart⟩
    obtain ⟨part, hdp, rfl⟩ := (ok_mem_assignments_iff hd).1 hx
    obtain ⟨other, hep, rfl⟩ := (ok_mem_assignments_iff he).1 hy
    obtain rfl : part = other := hpart
    exact h ⟨hplugin, part, hdp, hep⟩
  · rintro h ⟨hplugin, part, hdp, hep⟩
    have hx := (ok_mem_assignments_iff hd).2 ⟨part, hdp, rfl⟩
    have hy := (ok_mem_assignments_iff he).2 ⟨part, hep, rfl⟩
    exact h _ hx _ hy _ _ rfl rfl ⟨hplugin, rfl⟩

end Directive

namespace DirectiveLog

variable {directives : List Directive} {table after : PluginTable} {plugin : String}
  {part : PluginPart}

theorem pairwise_not_meets_iff (hf : ∀ d ∈ directives, ∀ fault, .error fault ∉ d.assignments) :
    (directives.Pairwise fun d e => ¬d.Meets e) ↔
      (directives.flatMap Directive.assignments).Pairwise
        (OnValues fun a b => ¬a.SamePart b) := by
  rw [List.pairwise_flatMap, and_iff_right fun d _ => d.pairwise_assignments]
  exact List.Pairwise.iff_of_mem fun hd he => Directive.not_meets_iff (hf _ hd) (hf _ he)

/-- A log is recorded exactly if its directives have no fault, no two of them assign to one part,
and the parts that they assign to are free. -/
theorem exists_record_assignments_iff :
    (∃ after, table.record (ofList directives).assignments = (.ok (), after)) ↔
      (∀ d ∈ directives, ∀ fault, .error fault ∉ d.assignments) ∧
      (directives.Pairwise fun d e => ¬d.Meets e) ∧
      ∀ d ∈ directives, ∀ part, d.AssignsTo part → table.value? d.plugin part = none := by
  constructor
  · rintro ⟨after, h⟩
    obtain ⟨made, hm, hp, hrun⟩ := record_assignments_eq_ok_iff.1 h
    obtain ⟨hfree, _⟩ := PluginTable.exists_foldlM_assign_iff.1 ⟨after, hrun⟩
    have hmem {d : Directive} (hd : d ∈ directives) {x : Except Fault Assignment}
        (hx : x ∈ d.assignments) : x ∈ made.map .ok := hm ▸ List.mem_flatMap.2 ⟨d, hd, hx⟩
    have hf : ∀ d ∈ directives, ∀ fault, .error fault ∉ d.assignments :=
      fun d hd fault he => by simpa using hmem hd he
    refine ⟨hf, (pairwise_not_meets_iff hf).2 (hm ▸ pairwise_onValues_map_iff.2 hp),
      fun d hd part hdp => ?_⟩
    have ha := hmem hd ((Directive.ok_mem_assignments_iff (hf d hd)).2 ⟨part, hdp, rfl⟩)
    obtain ⟨a, ha, he⟩ := List.mem_map.1 ha
    cases he
    exact hfree _ ha
  · rintro ⟨hf, hp, hfree⟩
    have hfault : ∀ fault, .error fault ∉ directives.flatMap Directive.assignments := by
      intro fault he
      obtain ⟨d, hd, he⟩ := List.mem_flatMap.1 he
      exact hf d hd fault he
    obtain ⟨made, hm⟩ := exists_map_ok_of_error_notMem hfault
    have hmade : made.Pairwise fun a b => ¬a.SamePart b :=
      pairwise_onValues_map_iff.1 (hm ▸ (pairwise_not_meets_iff hf).1 hp)
    have hfrees : ∀ a ∈ made, table.value? a.plugin a.part = none := by
      intro a ha
      have hx : .ok a ∈ directives.flatMap Directive.assignments :=
        hm ▸ List.mem_map.2 ⟨a, ha, rfl⟩
      obtain ⟨d, hd, hx⟩ := List.mem_flatMap.1 hx
      obtain ⟨part, hdp, rfl⟩ := (Directive.ok_mem_assignments_iff (hf d hd)).1 hx
      exact hfree d hd part hdp
    obtain ⟨after, hrun⟩ := PluginTable.exists_foldlM_assign_iff.2
      ⟨hfrees, hmade.imp fun hne hs => absurd hs hne⟩
    exact ⟨after, record_assignments_eq_ok_iff.2 ⟨made, hm, hmade, hrun⟩⟩

/-- A part holds what it held and what the directives give to it, of which at most one is
something. -/
theorem toList_value?_of_record
    (h : table.record (ofList directives).assignments = (.ok (), after)) :
    (after.value? plugin part).toList = (table.value? plugin part).toList ++
      directives.filterMap (Directive.givenTo? plugin part) := by
  obtain ⟨hf, _⟩ := exists_record_assignments_iff.1 ⟨after, h⟩
  obtain ⟨made, hm, _, hrun⟩ := record_assignments_eq_ok_iff.1 h
  have hgiven : made.filterMap (Assignment.givenTo? plugin part) =
      directives.filterMap (Directive.givenTo? plugin part) := by
    calc made.filterMap (Assignment.givenTo? plugin part)
      _ = (made.map .ok).filterMap (Assignment.madeTo? plugin part) := by
          rw [List.filterMap_map]
          rfl
      _ = directives.flatMap fun d =>
            d.assignments.filterMap (Assignment.madeTo? plugin part) := by
          rw [← hm, List.filterMap_flatMap]
      _ = directives.filterMap (Directive.givenTo? plugin part) := by
          rw [List.filterMap_eq_flatMap_toList]
          exact List.flatMap_congr fun d hd => Directive.filterMap_assignments (hf d hd)
  rw [PluginTable.toList_value?_append hrun, hgiven]

end DirectiveLog

/-! ## Room -/

/-- A table has room for directives: none of them is repeated, and each finds free what it says
something of. Options for a plugin are said before the colon of its output or in a directive of
their own, and not both; the latter needs them free even if it is empty. -/
structure PluginTable.HasRoomFor (table : PluginTable) (directives : List Directive) : Prop where
  nodup : (directives.map Directive.key).Nodup
  out : ∀ {plugin value}, ⟨plugin, .out, value⟩ ∈ directives →
    value.toList.count ':' ≤ 1 ∧ (table.entry plugin).out = "" ∧
      ((outputParts value).1 ≠ "" → (table.entry plugin).opt = none)
  opt : ∀ {plugin options}, ⟨plugin, .opt, options⟩ ∈ directives →
    (table.entry plugin).opt = none ∧
      ∀ value, ⟨plugin, .out, value⟩ ∈ directives → (outputParts value).1 = ""

/-- The entry of a plugin with what directives say of it: where it writes, and the options that are
some text. -/
def PluginEntry.told (plugin : String) (directives : List Directive) (e : PluginEntry) :
    PluginEntry where
  out := (directives.find? (DirectiveLog.concerns plugin .out)).elim e.out
    fun d => (outputParts d.value).2
  opt := (directives.findSome? (Directive.givenTo? plugin .opt)).or e.opt
  path := e.path

theorem PluginEntry.value?_told_out {plugin : String} {directives : List Directive}
    {e : PluginEntry} : (e.told plugin directives).value? .out =
      (directives.find? (DirectiveLog.concerns plugin .out)).elim (e.value? .out)
        fun d => PluginPart.out.read (outputParts d.value).2 := by
  simp only [told, value?]
  cases directives.find? (DirectiveLog.concerns plugin .out) <;> rfl

theorem PluginEntry.told_of_notMem {plugin : String} {directives : List Directive}
    {e : PluginEntry} (h : plugin ∉ directives.map Directive.plugin) :
    e.told plugin directives = e := by
  have hne : ∀ d ∈ directives, d.plugin ≠ plugin := by
    rintro d hd rfl
    exact h (List.mem_map_of_mem hd)
  have hout : directives.find? (DirectiveLog.concerns plugin .out) = none :=
    List.find?_eq_none.2 fun d hd => by simp [DirectiveLog.concerns, hne d hd]
  have hopt : directives.findSome? (Directive.givenTo? plugin .opt) = none :=
    List.findSome?_eq_none_iff.2 fun d hd => if_neg (hne d hd)
  rw [told, hout, hopt]
  rfl

namespace PluginTable

variable {table after : PluginTable} {directives : List Directive} {plugin : String}

theorem value?_out_eq_none_iff :
    table.value? plugin .out = none ↔ (table.entry plugin).out = "" := by
  simp [value?, PluginEntry.value?, PluginPart.read]

theorem hasRoomFor_iff : table.HasRoomFor directives ↔
    (∀ d ∈ directives, ∀ fault, .error fault ∉ d.assignments) ∧
      (directives.Pairwise fun d e => ¬d.Meets e) ∧
      ∀ d ∈ directives, ∀ part, d.AssignsTo part → table.value? d.plugin part = none := by
  constructor
  · rintro ⟨hn, hout, hopt⟩
    refine ⟨?_, ?_, ?_⟩
    · rintro ⟨plugin, kind, value⟩ hd
      cases kind with
      | out => exact error_notMem_outAssignments_iff.2 (hout hd).1
      | opt => simp [Directive.assignments, DirectiveKind.assignments]
    · refine (List.pairwise_map.1 hn).imp_of_mem ?_
      rintro ⟨plugin, kind, value⟩ ⟨other, kind', value'⟩ hd he hne hm
      obtain rfl : plugin = other := hm.1
      cases kind with
      | out =>
          cases kind' with
          | out => exact hne rfl
          | opt => exact Directive.out_meets_opt_iff.1 hm ((hopt he).2 _ hd)
      | opt =>
          cases kind' with
          | out => exact Directive.out_meets_opt_iff.1 hm.symm ((hopt hd).2 _ he)
          | opt => exact hne rfl
    · rintro ⟨plugin, kind, value⟩ hd part hdp
      cases kind with
      | out =>
          rcases Directive.assignsTo_out_iff.1 hdp with rfl | ⟨rfl, hsome⟩
          · exact value?_out_eq_none_iff.2 (hout hd).2.1
          · exact (hout hd).2.2 hsome
      | opt =>
          obtain rfl := Directive.assignsTo_opt_iff.1 hdp
          exact (hopt hd).1
  · rintro ⟨hf, hp, hfree⟩
    refine ⟨?_, fun {plugin value} hd => ⟨?_, ?_, fun hsome => ?_⟩,
      fun {plugin options} hd => ⟨?_, fun value he => ?_⟩⟩
    · exact List.pairwise_map.2 (hp.imp fun hde hk => hde (Directive.meets_of_key_eq hk))
    · exact error_notMem_outAssignments_iff.1 (hf _ hd)
    · exact value?_out_eq_none_iff.1 (hfree _ hd .out (Directive.assignsTo_out_iff.2 (.inl rfl)))
    · exact hfree _ hd .opt (Directive.assignsTo_out_iff.2 (.inr ⟨rfl, hsome⟩))
    · exact hfree _ hd .opt (Directive.assignsTo_opt_iff.2 rfl)
    · by_contra hsome
      have hne : (⟨plugin, .out, value⟩ : Directive) ≠ ⟨plugin, .opt, options⟩ := by simp
      exact hp.forall he hd hne (Directive.out_meets_opt_iff.2 hsome)

/-- Only the directive for the output of a plugin says where it writes. -/
theorem findSome?_givenTo?_out (hn : (directives.map Directive.key).Nodup) :
    directives.findSome? (Directive.givenTo? plugin .out) =
      (directives.find? (DirectiveLog.concerns plugin .out)).bind fun d =>
        PluginPart.out.read (outputParts d.value).2 := by
  have hgiven : Directive.givenTo? plugin .out = fun d : Directive =>
      if DirectiveLog.concerns plugin .out d then PluginPart.out.read (outputParts d.value).2
      else none := by
    funext d
    obtain ⟨name, kind, value⟩ := d
    cases kind <;> by_cases hname : name = plugin <;>
      simp [Directive.givenTo?, Directive.given?, DirectiveLog.concerns, hname]
  rw [← List.head?_filterMap, hgiven, ← List.filterMap_filter, DirectiveLog.filter_concerns hn]
  cases directives.find? (DirectiveLog.concerns plugin .out) with
  | none => rfl
  | some d => cases PluginPart.out.read (outputParts d.value).2 <;> simp_all

theorem entry_of_record
    (h : table.record (DirectiveLog.ofList directives).assignments = (.ok (), after)) :
    after.entry plugin = (table.entry plugin).told plugin directives := by
  have hroom := hasRoomFor_iff.2 (DirectiveLog.exists_record_assignments_iff.1 ⟨after, h⟩)
  refine PluginEntry.ext_value? fun part => ?_
  have hvalue : after.value? plugin part = (directives.findSome?
      (Directive.givenTo? plugin part)).or (table.value? plugin part) := by
    rw [← List.head?_filterMap]
    exact eq_or_of_toList_eq (DirectiveLog.toList_value?_of_record h)
  cases part with
  | opt => exact hvalue
  | path =>
      have hnone : directives.findSome? (Directive.givenTo? plugin .path) = none :=
        List.findSome?_eq_none_iff.2 fun d _ => Directive.givenTo?_path
      rw [hnone] at hvalue
      exact hvalue
  | out =>
      rw [findSome?_givenTo?_out hroom.nodup] at hvalue
      cases hf : directives.find? (DirectiveLog.concerns plugin .out) with
      | none =>
          rw [hf] at hvalue
          rw [PluginEntry.value?_told_out, hf]
          exact hvalue
      | some d =>
          have hd := List.mem_of_find?_eq_some hf
          have hc := List.find?_some hf
          obtain ⟨name, kind, value⟩ := d
          obtain ⟨rfl, rfl⟩ : name = plugin ∧ kind = .out := by
            simpa [DirectiveLog.concerns] using hc
          have hfree := value?_out_eq_none_iff.2 (hroom.out hd).2.1
          rw [hf, hfree, Option.or_none] at hvalue
          rw [PluginEntry.value?_told_out, hf]
          exact hvalue

theorem exists_mem_assignments_iff
    (h : table.record (DirectiveLog.ofList directives).assignments = (.ok (), after)) :
    (∃ a, .ok a ∈ (DirectiveLog.ofList directives).assignments ∧ a.plugin = plugin) ↔
      plugin ∈ directives.map Directive.plugin := by
  obtain ⟨hf, _⟩ := DirectiveLog.exists_record_assignments_iff.1 ⟨after, h⟩
  have hperm := DirectiveLog.assignments_perm
    (DirectiveLog.nodup_of_assignments (error_notMem_of_record h))
  constructor
  · rintro ⟨a, ha, rfl⟩
    obtain ⟨d, hd, ha⟩ := List.mem_flatMap.1 (hperm.mem_iff.1 ha)
    exact List.mem_map.2 ⟨d, hd, (Directive.plugin_of_mem_assignments ha).symm⟩
  · intro hm
    obtain ⟨d, hd, rfl⟩ := List.mem_map.1 hm
    obtain ⟨a, ha, hp, _⟩ := Directive.exists_mem_assignments (hf d hd)
    exact ⟨a, hperm.mem_iff.2 (List.mem_flatMap.2 ⟨d, hd, ha⟩), hp⟩

theorem get?_of_record
    (h : table.record (DirectiveLog.ofList directives).assignments = (.ok (), after)) :
    after.get? plugin = if plugin ∈ directives.map Directive.plugin then
      some ((table.entry plugin).told plugin directives) else table.get? plugin := by
  have hentry : after.entry plugin = _ := entry_of_record h
  have hsome : (after.get? plugin).isSome ↔ _ := isSome_get?_append_record h
  rw [exists_mem_assignments_iff h] at hsome
  split
  · rename_i hm
    exact get?_eq_of_entry_eq hentry (hsome.2 (.inr hm))
  · rename_i hm
    rw [PluginEntry.told_of_notMem hm] at hentry
    exact get?_eq_get?_of_entry_eq hentry (hsome.trans (or_iff_left hm))

/-- A table takes the directives of a vector if and only if it has room for them. Then the entries
of their plugins hold what they say, and all others are as they were. If a directive is repeated,
the fault names the one that is repeated first, and the table is as it was. -/
theorem record_directives (table : PluginTable) (directives : List Directive) :
    ((∃ after, table.record (DirectiveLog.ofList directives).assignments = (.ok (), after)) ↔
      table.HasRoomFor directives) ∧
    (∀ after, table.record (DirectiveLog.ofList directives).assignments = (.ok (), after) →
      ∀ plugin, after.get? plugin = if plugin ∈ directives.map Directive.plugin then
        some ((table.entry plugin).told plugin directives) else table.get? plugin) ∧
    (¬(directives.map Directive.key).Nodup → ∃ earlier d later,
      directives = earlier ++ d :: later ∧ (earlier.map Directive.key).Nodup ∧
        d.key ∈ earlier.map Directive.key ∧
        table.record (DirectiveLog.ofList directives).assignments =
          (.error (d.kind.part.duplicate d.plugin), table)) := by
  refine ⟨?_, fun after h plugin => get?_of_record h, fun hn => ?_⟩
  · rw [DirectiveLog.exists_record_assignments_iff, hasRoomFor_iff]
  · have hlog := DirectiveLog.represents_ofList directives
    cases hr : (DirectiveLog.ofList directives).firstRepeat? with
    | none => exact absurd (hlog.unrepeated_iff.1 hr) hn
    | some key =>
        obtain ⟨earlier, d, later, hd, rfl, he, hm⟩ := (hlog.repeated_iff key).1 hr
        refine ⟨earlier, d, later, hd, he, hm, ?_⟩
        rw [DirectiveLog.assignments, hr]
        rfl

/-- Options before the colon of one plugin, and of another an empty directive for options beside a
colon with nothing before it; the first plugin has a path. Then four directives of which the second
and the last two share two keys. -/
theorem record_directives_combined :
    (empty.insert "go" { path := some "bin/go" }).HasRoomFor
        [⟨"go", .out, "a=b:gen"⟩, ⟨"java", .opt, ""⟩, ⟨"java", .out, ":out"⟩] ∧
      ((empty.insert "go" { path := some "bin/go" }).record (DirectiveLog.ofList
          [⟨"go", .out, "a=b:gen"⟩, ⟨"java", .opt, ""⟩, ⟨"java", .out, ":out"⟩]).assignments =
        (.ok (), (empty.insert "go" ⟨"gen", some "a=b", some "bin/go"⟩).insert "java"
          ⟨"out", none, none⟩) ∧
      ((empty.insert "go" ⟨"gen", some "a=b", some "bin/go"⟩).insert "java"
          ⟨"out", none, none⟩).get? "go" =
        some (({ path := some "bin/go" } : PluginEntry).told "go"
          [⟨"go", .out, "a=b:gen"⟩, ⟨"java", .opt, ""⟩, ⟨"java", .out, ":out"⟩])) ∧
      ¬([⟨"go", .opt, "x"⟩, ⟨"java", .out, "a"⟩, ⟨"java", .out, "b"⟩, ⟨"go", .opt, "y"⟩].map
          Directive.key).Nodup ∧
      ∃ earlier d later,
        [⟨"go", .opt, "x"⟩, ⟨"java", .out, "a"⟩, ⟨"java", .out, "b"⟩, ⟨"go", .opt, "y"⟩] =
          earlier ++ d :: later ∧ (earlier.map Directive.key).Nodup ∧
        d.key ∈ earlier.map Directive.key ∧
        empty.record (DirectiveLog.ofList [⟨"go", .opt, "x"⟩, ⟨"java", .out, "a"⟩,
          ⟨"java", .out, "b"⟩, ⟨"go", .opt, "y"⟩]).assignments =
            (.error (d.kind.part.duplicate d.plugin), empty) := by
  have hr : (empty.insert "go" { path := some "bin/go" }).record (DirectiveLog.ofList
      [⟨"go", .out, "a=b:gen"⟩, ⟨"java", .opt, ""⟩, ⟨"java", .out, ":out"⟩]).assignments =
        (.ok (), (empty.insert "go" ⟨"gen", some "a=b", some "bin/go"⟩).insert "java"
          ⟨"out", none, none⟩) := by decide +kernel
  have hrepeated : ¬([⟨"go", .opt, "x"⟩, ⟨"java", .out, "a"⟩, ⟨"java", .out, "b"⟩,
      ⟨"go", .opt, "y"⟩].map Directive.key).Nodup := by decide +kernel
  exact ⟨(record_directives _ _).1.1 ⟨_, hr⟩, ⟨hr, (record_directives _ _).2.1 _ hr "go"⟩,
    hrepeated, (record_directives empty _).2.2 hrepeated⟩

end PluginTable

end ProtocInvocation
