import ProtocInvocation.Proofs.Plugin.Collection

/-!
# The order of assignments

Assignments to different parts can be made in any order (`PluginTable.foldlM_assign_of_perm`). A
log is recorded exactly if its directives assign to no part twice and to none that has a value
(`DirectiveLog.record_assignments_eq_ok_iff`), so what it does to a table depends neither on the
order of its directives nor on how they are put together (`DirectiveLog.recordedAlike_of_perm`).
-/

namespace ProtocInvocation

open scoped List

/-- Two lists of assignments do the same to every table, if it takes either of them at all. -/
def RecordedAlike (first second : List (Except Fault Assignment)) : Prop :=
  ∀ table after : PluginTable,
    table.record first = (.ok (), after) ↔ table.record second = (.ok (), after)

theorem RecordedAlike.append_right {first second : List (Except Fault Assignment)}
    (h : RecordedAlike first second) (later : List (Except Fault Assignment)) :
    RecordedAlike (first ++ later) (second ++ later) := by
  intro table after
  rw [PluginTable.record_append_eq_ok_iff, PluginTable.record_append_eq_ok_iff]
  exact exists_congr fun between => and_congr_left' (h table between)

theorem Assignment.SamePart.symm {a b : Assignment} (h : a.SamePart b) : b.SamePart a :=
  ⟨h.1.symm, h.2.symm⟩

theorem Assignment.pairwise_not_samePart_of_perm {made other : List Assignment} (h : made ~ other)
    (hp : made.Pairwise fun a b => ¬a.SamePart b) : other.Pairwise fun a b => ¬a.SamePart b :=
  (h.pairwise_iff fun hab hba => hab hba.symm).1 hp

theorem exists_map_ok_of_perm {assignments : List (Except Fault Assignment)}
    {made : List Assignment} (h : made.map .ok ~ assignments) :
    ∃ other : List Assignment, assignments = other.map .ok ∧ made ~ other := by
  obtain ⟨other, rfl⟩ := exists_map_ok_of_error_notMem fun fault he => by
    simpa using h.mem_iff.2 he
  exact ⟨other, rfl, (List.map_perm_map_iff fun _ _ => Except.ok.inj).1 h⟩

/-! ## Runs in another order -/

namespace PluginTable

variable {table after after' : PluginTable} {made other : List Assignment}

/-- Runs that make the same assignments end in the same table, if both end well. -/
theorem eq_of_foldlM_assign_perm (h : made ~ other) (hm : made.foldlM assign table = .ok after)
    (ho : other.foldlM assign table = .ok after') : after = after' := by
  refine ext_value? (fun plugin => ?_) fun plugin part => ?_
  · rw [isSome_get?_of_foldlM hm, isSome_get?_of_foldlM ho, (h.map _).mem_iff]
  · have hperm : (after.value? plugin part).toList ~ (after'.value? plugin part).toList := by
      rw [toList_value?_append hm, toList_value?_append ho]
      exact (h.filterMap _).append_left _
    simpa using congrArg List.head? (eq_toList_of_perm hperm)

/-- Assignments to different parts can be made in any order. -/
theorem foldlM_assign_of_perm (h : made ~ other) (hp : made.Pairwise fun a b => ¬a.SamePart b)
    (hm : made.foldlM assign table = .ok after) : other.foldlM assign table = .ok after := by
  obtain ⟨hfree, _⟩ := exists_foldlM_assign_iff.1 ⟨after, hm⟩
  have hother := Assignment.pairwise_not_samePart_of_perm h hp
  obtain ⟨after', ho⟩ := exists_foldlM_assign_iff.2
    ⟨fun a ha => hfree a (h.mem_iff.2 ha), hother.imp fun hne hs => absurd hs hne⟩
  rwa [eq_of_foldlM_assign_perm h hm ho]

end PluginTable

/-! ## Exchanges -/

theorem perm_exchange {α : Type} {earlier first second later : List α} :
    earlier ++ (first ++ (second ++ later)) ~ earlier ++ (second ++ (first ++ later)) := by
  refine .append_left _ ?_
  rw [← List.append_assoc, ← List.append_assoc]
  exact List.perm_append_comm.append_right _

theorem pairwise_exchange_iff {α : Type} {R : α → α → Prop} {earlier first second later : List α}
    (h : (earlier ++ (first ++ (second ++ later))).Pairwise R) :
    (earlier ++ (second ++ (first ++ later))).Pairwise R ↔ ∀ b ∈ second, ∀ a ∈ first, R b a := by
  simp only [List.pairwise_append, List.mem_append] at h ⊢
  obtain ⟨he, ⟨hf, ⟨hs, hl, hsl⟩, hfr⟩, her⟩ := h
  constructor
  · rintro ⟨_, ⟨_, _, hsf⟩, _⟩ b hb a ha
    exact hsf b hb a (.inl ha)
  · intro hsf
    refine ⟨he, ⟨hs, ⟨hf, hl, fun a ha b hb => hfr a ha b (.inr hb)⟩, ?_⟩, ?_⟩
    · rintro b hb c (hc | hc)
      · exact hsf b hb c hc
      · exact hsl b hb c hc
    · rintro a ha b (hb | hb | hb)
      · exact her a ha b (.inr (.inl hb))
      · exact her a ha b (.inl hb)
      · exact her a ha b (.inr (.inr hb))

namespace PluginTable

variable {table after after' : PluginTable}
  {assignments other earlier first second later : List (Except Fault Assignment)}

theorem eq_of_record_perm (h : assignments ~ other)
    (ha : table.record assignments = (.ok (), after))
    (ho : table.record other = (.ok (), after')) : after = after' := by
  obtain ⟨made, rfl, hmade⟩ := record_eq_ok_iff.1 ha
  obtain ⟨run, rfl, hrun⟩ := record_eq_ok_iff.1 ho
  exact eq_of_foldlM_assign_perm ((List.map_perm_map_iff fun _ _ => Except.ok.inj).1 h) hmade hrun

/-- Of recorded assignments some can be made before others that they followed if and only if they
give nothing to the parts that these are to. -/
theorem exists_record_exchange_iff
    (h : table.record (earlier ++ (first ++ (second ++ later))) = (.ok (), after)) :
    (∃ after', table.record (earlier ++ (second ++ (first ++ later))) = (.ok (), after')) ↔
      ∀ b a, .ok b ∈ second → .ok a ∈ first → b.SamePart a → b.given? = none := by
  obtain ⟨hfault, hfree, hpair⟩ := exists_record_iff.1 ⟨after, h⟩
  have hmem {x : Except Fault Assignment} : x ∈ earlier ++ (first ++ (second ++ later)) ↔
      x ∈ earlier ++ (second ++ (first ++ later)) := perm_exchange.mem_iff
  rw [exists_record_iff]
  constructor
  · rintro ⟨_, _, hexchanged⟩ b a hb ha hs
    exact (pairwise_exchange_iff hpair).1 hexchanged _ hb _ ha b a rfl rfl hs
  · intro hgive
    refine ⟨fun fault hm => hfault fault (hmem.2 hm), fun a hm => hfree a (hmem.2 hm),
      (pairwise_exchange_iff hpair).2 ?_⟩
    rintro _ hb _ ha b a rfl rfl hs
    exact hgive b a hb ha hs

end PluginTable

/-! ## What one directive assigns -/

@[simp] theorem PluginPart.getD_read {part : PluginPart} {text : String} :
    (part.read text).getD "" = text := by
  cases part with
  | path => rfl
  | _ => by_cases h : text = "" <;> simp [read, h]

namespace Directive

variable {d : Directive} {a : Assignment}

/-- A directive without a fault assigns to the part of its kind, and also to another if it gives
that a value. -/
theorem ok_mem_assignments_iff (h : ∀ fault, .error fault ∉ d.assignments) :
    .ok a ∈ d.assignments ↔ ∃ part, (part = d.kind.part ∨ d.given? part ≠ none) ∧
      a = ⟨d.plugin, part, (d.given? part).getD ""⟩ := by
  obtain ⟨plugin, kind, value⟩ := d
  cases kind with
  | opt =>
      constructor
      · intro hm
        obtain rfl := Except.ok.inj (List.mem_singleton.1 hm)
        exact ⟨.opt, .inl rfl, by simp [given?]⟩
      · rintro ⟨part, hpart, rfl⟩
        obtain rfl : part = .opt := by cases part <;> simp_all [given?, DirectiveKind.part]
        simp [assignments, DirectiveKind.assignments, given?]
  | out =>
      rw [assignments, DirectiveKind.assignments, outAssignments_eq h]
      constructor
      · intro hm
        rcases List.mem_cons.1 hm with hm | hm
        · obtain rfl := Except.ok.inj hm
          exact ⟨.out, .inl rfl, by simp [given?]⟩
        · obtain ⟨options, ho, hm⟩ := Option.map_eq_some_iff.1 (Option.mem_toList.1 hm)
          obtain rfl := Except.ok.inj hm
          exact ⟨.opt, .inr (by simp [given?, ho]), by simp [given?, ho]⟩
      · rintro ⟨part, hpart, rfl⟩
        cases part with
        | out => simp [given?]
        | opt =>
            have hgiven := hpart.resolve_left (by simp [DirectiveKind.part])
            obtain ⟨options, ho⟩ := Option.ne_none_iff_exists'.1 hgiven
            have ho' : PluginPart.opt.read (outputParts value).1 = some options := ho
            simp [ho, ho']
        | path => simp [given?, DirectiveKind.part] at hpart

/-- What an assignment of a directive gives is what the directive gives. -/
theorem given?_of_mem_assignments (h : ∀ fault, .error fault ∉ d.assignments)
    (ha : .ok a ∈ d.assignments) : a.given? = d.given? a.part := by
  obtain ⟨part, hpart, rfl⟩ := (ok_mem_assignments_iff h).1 ha
  obtain ⟨plugin, kind, value⟩ := d
  cases kind <;> cases part <;> simp_all [given?, Assignment.given?, DirectiveKind.part]

theorem error_notMem_assignments (ha : .ok a ∈ d.assignments) (fault : Fault) :
    .error fault ∉ d.assignments := by
  intro hf
  obtain ⟨plugin, kind, value⟩ := d
  cases kind with
  | opt => simp [assignments, DirectiveKind.assignments] at hf
  | out =>
      simp only [assignments, DirectiveKind.assignments, outAssignments] at ha hf
      split at ha <;> simp_all

theorem part_ne_path (ha : .ok a ∈ d.assignments) : a.part ≠ .path := by
  obtain ⟨part, hpart, rfl⟩ := (ok_mem_assignments_iff (error_notMem_assignments ha)).1 ha
  rintro rfl
  rcases hpart with hp | hp
  · cases hk : d.kind <;> simp [hk, DirectiveKind.part] at hp
  · exact hp given?_path

/-- A directive assigns to no part twice. -/
theorem pairwise_assignments (d : Directive) :
    d.assignments.Pairwise (OnValues fun a b => ¬a.SamePart b) := by
  obtain ⟨plugin, kind, value⟩ := d
  cases kind with
  | opt => exact List.pairwise_singleton _ _
  | out =>
      simp only [assignments, DirectiveKind.assignments, outAssignments]
      split
      · exact List.pairwise_singleton _ _
      · exact List.pairwise_singleton _ _
      · simp [onValues_ok_iff, Assignment.SamePart]

end Directive

/-! ## Logs -/

namespace DirectiveLog

variable {log : DirectiveLog} {directives other : List Directive} {plugin : String}
  {places : DirectivePlaces} {a : Assignment} {table after : PluginTable}

theorem plugin_of_mem_assignmentsOf (h : .ok a ∈ log.assignmentsOf plugin places) :
    a.plugin = plugin := by
  obtain ⟨kind, value, hm⟩ := exists_of_mem_assignmentsOf h
  exact Directive.plugin_of_mem_assignments hm

/-- No directive gives a plugin its path. -/
theorem part_ne_path (h : .ok a ∈ log.assignments) : a.part ≠ .path := by
  obtain ⟨part, plugin, he⟩ | ⟨d, hm⟩ := exists_of_mem_assignments h
  · cases he
  · exact Directive.part_ne_path hm

/-- Of two assignments of a log to one part the first gives options: they stand before a colon. -/
theorem pairwise_assignmentsOf : (log.assignmentsOf plugin places).Pairwise
    (OnValues fun a b => a.SamePart b → a.given? ≠ none) := by
  rw [assignmentsOf, List.pairwise_append]
  refine ⟨?_, ?_, fun x hx y hy => ?_⟩
  · cases places.out.bind log.value? with
    | none => exact .nil
    | some value =>
        let d : Directive := ⟨plugin, .out, value⟩
        exact d.pairwise_assignments.imp fun hab a b ha hb hs => absurd hs (hab a b ha hb)
  · cases places.opt.bind log.value? with
    | none => exact .nil
    | some options => exact List.pairwise_singleton _ _
  · rintro a b rfl rfl hs
    obtain ⟨value, hx⟩ := exists_of_mem_elim .out hx
    obtain ⟨options, hy⟩ := exists_of_mem_elim .opt hy
    obtain rfl := Except.ok.inj (List.mem_singleton.1 hy)
    have hd := Directive.error_notMem_assignments hx
    rw [Directive.given?_of_mem_assignments hd hx]
    obtain ⟨part, hpart, rfl⟩ := (Directive.ok_mem_assignments_iff hd).1 hx
    obtain rfl : part = .opt := hs.2
    exact hpart.resolve_left fun he => by cases he

theorem pairwise_assignments (hn : log.plugins.Nodup) : log.assignments.Pairwise
    (OnValues fun a b => a.SamePart b → a.given? ≠ none) := by
  rw [assignments]
  split
  · exact List.pairwise_singleton _ _
  · refine List.pairwise_flatMap.2 ⟨fun entry _ => pairwise_assignmentsOf, ?_⟩
    refine (List.pairwise_map.1 hn).imp fun hne x hx y hy a b ha hb hs => absurd hs.1 ?_
    subst ha hb
    rwa [plugin_of_mem_assignmentsOf hx, plugin_of_mem_assignmentsOf hy]

/-- Directives that assign to no part twice are not repeated. -/
theorem nodup_of_pairwise {made : List Assignment}
    (hm : directives.flatMap Directive.assignments = made.map .ok)
    (hp : made.Pairwise fun a b => ¬a.SamePart b) : (directives.map Directive.key).Nodup := by
  have hfault : ∀ d ∈ directives, ∀ fault, .error fault ∉ d.assignments := by
    intro d hd fault he
    have he : .error fault ∈ directives.flatMap Directive.assignments :=
      List.mem_flatMap.2 ⟨d, hd, he⟩
    simp [hm] at he
  have hmade : (directives.flatMap Directive.assignments).Pairwise
      (OnValues fun a b => ¬a.SamePart b) := by
    rw [hm]
    exact pairwise_onValues_map_iff.2 hp
  rw [List.Nodup, List.pairwise_map]
  refine (List.pairwise_flatMap.1 hmade).2.imp_of_mem fun {d e} hd he hde hk => ?_
  obtain ⟨a, ha, hap, haq, _⟩ := Directive.exists_mem_assignments (hfault d hd)
  obtain ⟨b, hb, hbp, hbq, _⟩ := Directive.exists_mem_assignments (hfault e he)
  obtain ⟨hplugin, hkind⟩ := Prod.mk.inj hk
  refine hde _ ha _ hb a b rfl rfl ⟨?_, ?_⟩
  · rw [hap, hbp, hplugin]
  · rw [haq, hbq, hkind]

/-- A log is recorded if and only if its directives assign to different parts, of which none has a
value. -/
theorem record_assignments_eq_ok_iff :
    table.record (ofList directives).assignments = (.ok (), after) ↔
      ∃ made : List Assignment, directives.flatMap Directive.assignments = made.map .ok ∧
        (made.Pairwise fun a b => ¬a.SamePart b) ∧
        made.foldlM PluginTable.assign table = .ok after := by
  constructor
  · intro h
    have hperm := assignments_perm (nodup_of_assignments (PluginTable.error_notMem_of_record h))
    obtain ⟨run, hr, hrun⟩ := PluginTable.record_eq_ok_iff.1 h
    rw [hr] at hperm
    obtain ⟨made, hm, hmade⟩ := exists_map_ok_of_perm hperm
    -- an assignment followed by another to its part would give something and give nothing
    have hp : run.Pairwise fun a b => ¬a.SamePart b := by
      have hgives := pairwise_assignments (represents_ofList directives).nodup
      obtain ⟨_, _, hnone⟩ := PluginTable.exists_record_iff.1 ⟨after, h⟩
      rw [hr, pairwise_onValues_map_iff] at hgives hnone
      exact hgives.imp₂ (fun a b hab hn hs => hab hs (hn hs)) hnone
    exact ⟨made, hm, Assignment.pairwise_not_samePart_of_perm hmade hp,
      PluginTable.foldlM_assign_of_perm hmade hp hrun⟩
  · rintro ⟨made, hm, hp, hrun⟩
    have hperm := assignments_perm (nodup_of_pairwise hm hp)
    rw [hm] at hperm
    obtain ⟨run, hr, hmade⟩ := exists_map_ok_of_perm hperm.symm
    exact PluginTable.record_eq_ok_iff.2 ⟨run, hr, PluginTable.foldlM_assign_of_perm hmade hp hrun⟩

theorem record_assignments_of_perm
    (h : directives.flatMap Directive.assignments ~ other.flatMap Directive.assignments)
    (hr : table.record (ofList directives).assignments = (.ok (), after)) :
    table.record (ofList other).assignments = (.ok (), after) := by
  obtain ⟨made, hm, hp, hrun⟩ := record_assignments_eq_ok_iff.1 hr
  rw [hm] at h
  obtain ⟨run, hr, hmade⟩ := exists_map_ok_of_perm h
  exact record_assignments_eq_ok_iff.2 ⟨run, hr, Assignment.pairwise_not_samePart_of_perm hmade hp,
    PluginTable.foldlM_assign_of_perm hmade hp hrun⟩

/-- Logs whose directives assign the same, in whatever order, are recorded alike. -/
theorem recordedAlike_of_perm
    (h : directives.flatMap Directive.assignments ~ other.flatMap Directive.assignments) :
    RecordedAlike (ofList directives).assignments (ofList other).assignments :=
  fun _ _ => ⟨record_assignments_of_perm h, record_assignments_of_perm h.symm⟩

end DirectiveLog

end ProtocInvocation
