import Mathlib.Data.List.Perm.Basic
import ProtocInvocation.Plugin.Assignment
import ProtocInvocation.Proofs.Plugin.Log

/-!
# What a log assigns

A log assigns plugin by plugin, and of each plugin only the last directive of each kind, whose value
it finds by its place (`DirectiveLog.Represents.bind_value?_lastIndex?`). If no directive is
repeated, that is what the directives assign one by one, in another order
(`DirectiveLog.assignments_perm`).
-/

namespace ProtocInvocation

open scoped List

/-! ## Grouping -/

/-- Items taken key by key are the items in another order. -/
theorem perm_flatMap_filter {α κ : Type} [DecidableEq κ] {key : α → κ} {keys : List κ}
    {items : List α} (hn : keys.Nodup) (hc : ∀ item ∈ items, key item ∈ keys) :
    (keys.flatMap fun k => items.filter (key · = k)).Perm items := by
  induction keys generalizing items with
  | nil =>
      obtain rfl : items = [] :=
        List.eq_nil_iff_forall_not_mem.2 fun item h => by simpa using hc item h
      exact .nil
  | cons k keys ih =>
      obtain ⟨hk, hn⟩ := List.nodup_cons.1 hn
      -- the later keys find nothing among the items of the first
      have hlater : (keys.flatMap fun k' => items.filter (key · = k')) =
          keys.flatMap fun k' =>
            (items.filter fun item => !(key item = k)).filter (key · = k') := by
        refine List.flatMap_congr fun k' hk' => ?_
        rw [List.filter_filter]
        refine List.filter_congr fun item _ => ?_
        by_cases h : key item = k'
        · have hne : k' ≠ k := fun he => hk (he ▸ hk')
          simp [h, hne]
        · simp [h]
      rw [List.flatMap_cons, hlater]
      refine .trans (.append_left _ (ih hn fun item h => ?_)) (List.filter_append_perm _ items)
      obtain ⟨hm, hne⟩ := List.mem_filter.1 h
      exact (List.mem_cons.1 (hc item hm)).resolve_left (by simpa using hne)

namespace DirectiveLog

variable {log : DirectiveLog} {directives : List Directive} {d : Directive} {plugin : String}
  {kind : DirectiveKind}

/-! ## Last values -/

/-- Whether `d` is of this plugin and kind. -/
def concerns (plugin : String) (kind : DirectiveKind) (d : Directive) : Bool :=
  d.plugin = plugin ∧ d.kind = kind

theorem concerns_iff : concerns plugin kind d ↔ d.key = (plugin, kind) := by
  simp [concerns, Directive.key]

/-- The value of the last of `directives` that is of this plugin and kind. -/
def lastValue? (directives : List Directive) (plugin : String) (kind : DirectiveKind) :
    Option String :=
  (directives.reverse.find? (concerns plugin kind)).map Directive.value

theorem find?_concerns_eq_none (h : (plugin, kind) ∉ directives.map Directive.key) :
    directives.reverse.find? (concerns plugin kind) = none :=
  List.find?_eq_none.2 fun _ hd hc =>
    h (concerns_iff.1 hc ▸ List.mem_map_of_mem (List.mem_reverse.1 hd))

/-- The last value of a plugin and kind is the one at the index. -/
theorem Represents.bind_value?_lastIndex? (h : log.Represents directives) :
    (log.lastIndex? plugin kind).bind log.value? = lastValue? directives plugin kind := by
  cases hi : log.lastIndex? plugin kind with
  | none =>
      rw [lastValue?, find?_concerns_eq_none ((h.unplaced_iff _ _).1 hi)]
      rfl
  | some index =>
      obtain ⟨earlier, value, later, rfl, _, hn, hv⟩ := h.exists_of_lastIndex? hi
      have hfound : concerns plugin kind ⟨plugin, kind, value⟩ := concerns_iff.2 rfl
      simp [lastValue?, find?_concerns_eq_none hn, hfound, hv]

end DirectiveLog

/-! ## What directives assign -/

/-- What a directive of this kind assigns. -/
def DirectiveKind.assignments (plugin value : String) :
    DirectiveKind → List (Except Fault Assignment)
  | .out => outAssignments plugin value
  | .opt => [.ok ⟨plugin, .opt, value⟩]

/-- What one directive assigns. -/
def Directive.assignments (d : Directive) : List (Except Fault Assignment) :=
  d.kind.assignments d.plugin d.value

namespace DirectiveLog

variable {log : DirectiveLog} {directives : List Directive} {plugin : String}
  {kind : DirectiveKind} {entry : String × DirectivePlaces} {places : DirectivePlaces}

theorem exists_of_mem_elim (kind : DirectiveKind) {value? : Option String}
    {x : Except Fault Assignment} (h : x ∈ value?.elim [] (kind.assignments plugin)) :
    ∃ value, x ∈ Directive.assignments ⟨plugin, kind, value⟩ := by
  cases value? with
  | none => cases h
  | some value => exact ⟨value, h⟩

/-- What a log assigns to a plugin is assigned by directives of the plugin. -/
theorem exists_of_mem_assignmentsOf {x : Except Fault Assignment}
    (h : x ∈ log.assignmentsOf plugin places) :
    ∃ kind value, x ∈ Directive.assignments ⟨plugin, kind, value⟩ := by
  rcases List.mem_append.1 h with h | h
  · exact ⟨.out, exists_of_mem_elim .out h⟩
  · exact ⟨.opt, exists_of_mem_elim .opt h⟩

/-- What a log assigns is assigned by directives, unless it is the fault of a repeat. -/
theorem exists_of_mem_assignments {x : Except Fault Assignment} (h : x ∈ log.assignments) :
    (∃ (part : PluginPart) (plugin : String), x = .error (part.duplicate plugin)) ∨
      ∃ d : Directive, x ∈ d.assignments := by
  rw [assignments] at h
  split at h
  · exact .inl ⟨_, _, List.mem_singleton.1 h⟩
  · obtain ⟨entry, _, h⟩ := List.mem_flatMap.1 h
    obtain ⟨kind, value, h⟩ := exists_of_mem_assignmentsOf h
    exact .inr ⟨_, h⟩

/-! ## Logs without repeats -/

/-- There is at most one directive of a plugin and kind, if none is repeated. -/
theorem filter_concerns (h : (directives.map Directive.key).Nodup) :
    directives.filter (concerns plugin kind) =
      (directives.find? (concerns plugin kind)).toList := by
  have hone : (directives.filter (concerns plugin kind)).length ≤ 1 := by
    rw [← List.countP_eq_length_filter]
    calc directives.countP (concerns plugin kind)
      _ = (directives.map Directive.key).count (plugin, kind) := by
          rw [List.count, List.countP_map]
          refine List.countP_congr fun d _ => ?_
          simp [concerns_iff]
      _ ≤ 1 := List.nodup_iff_count.1 h _
  rw [← List.head?_filter]
  match directives.filter (concerns plugin kind), hone with
  | [], _ => rfl
  | [d], _ => rfl

/-- The directives of one plugin and kind are all told by the last, if none is repeated. -/
theorem toList_lastValue? (h : (directives.map Directive.key).Nodup) :
    (lastValue? directives plugin kind).toList =
      (directives.filter (concerns plugin kind)).map Directive.value := by
  rw [lastValue?, ← List.head?_filter, List.filter_reverse, filter_concerns h]
  cases directives.find? (concerns plugin kind) <;> rfl

theorem elim_lastValue? (h : (directives.map Directive.key).Nodup) :
    (lastValue? directives plugin kind).elim [] (kind.assignments plugin) =
      (directives.filter (concerns plugin kind)).flatMap Directive.assignments := by
  calc (lastValue? directives plugin kind).elim [] (kind.assignments plugin)
    _ = (lastValue? directives plugin kind).toList.flatMap (kind.assignments plugin) := by
        cases lastValue? directives plugin kind <;> simp
    _ = (directives.filter (concerns plugin kind)).flatMap
          fun d => kind.assignments plugin d.value := by rw [toList_lastValue? h, List.flatMap_map]
    _ = _ := by
        refine List.flatMap_congr fun d hd => ?_
        obtain ⟨rfl, rfl⟩ := Prod.mk.inj (concerns_iff.1 (List.mem_filter.1 hd).2)
        rfl

theorem filter_concerns_perm :
    directives.filter (concerns plugin .out) ++ directives.filter (concerns plugin .opt) ~
      directives.filter (·.plugin = plugin) := by
  have h := List.filter_append_perm (fun d : Directive => d.kind = .out)
    (directives.filter (·.plugin = plugin))
  rw [List.filter_filter, List.filter_filter] at h
  refine .trans (.of_eq ?_) h
  congr 1
  · exact List.filter_congr fun d _ => by simp [concerns, Bool.and_comm]
  · refine List.filter_congr fun d _ => ?_
    cases hk : d.kind <;> simp [concerns, hk]

/-- What a log assigns to a plugin is what the plugin's last directives assign. -/
theorem Represents.assignmentsOf_eq (h : log.Represents directives) (he : entry ∈ log.entries) :
    log.assignmentsOf entry.1 entry.2 =
      (lastValue? directives entry.1 .out).elim [] (DirectiveKind.out.assignments entry.1) ++
        (lastValue? directives entry.1 .opt).elim [] (DirectiveKind.opt.assignments entry.1) := by
  have hout : entry.2.out = log.lastIndex? entry.1 .out := h.get?_of_mem he .out
  have hopt : entry.2.opt = log.lastIndex? entry.1 .opt := h.get?_of_mem he .opt
  rw [assignmentsOf, hout, hopt, h.bind_value?_lastIndex?, h.bind_value?_lastIndex?]
  rfl

/-- If none is repeated, these are all of its directives. -/
theorem Represents.assignmentsOf_perm (h : log.Represents directives)
    (hn : (directives.map Directive.key).Nodup) (he : entry ∈ log.entries) :
    log.assignmentsOf entry.1 entry.2 ~
      (directives.filter (·.plugin = entry.1)).flatMap Directive.assignments := by
  calc log.assignmentsOf entry.1 entry.2
    _ = (directives.filter (concerns entry.1 .out) ++
          directives.filter (concerns entry.1 .opt)).flatMap Directive.assignments := by
        rw [h.assignmentsOf_eq he, elim_lastValue? hn, elim_lastValue? hn, List.flatMap_append]
    _ ~ _ := .flatMap_right _ filter_concerns_perm

theorem nodup_of_assignments (h : ∀ fault, .error fault ∉ (ofList directives).assignments) :
    (directives.map Directive.key).Nodup := by
  rw [← (represents_ofList directives).unrepeated_iff]
  cases hr : (ofList directives).firstRepeat? with
  | none => rfl
  | some key => exact absurd (by simp [assignments, hr]) (h (key.2.part.duplicate key.1))

/-- A log without repeated directives assigns what its directives assign. -/
theorem assignments_perm (hn : (directives.map Directive.key).Nodup) :
    (ofList directives).assignments ~ directives.flatMap Directive.assignments := by
  have h := represents_ofList directives
  rw [assignments, h.unrepeated_iff.2 hn]
  calc (ofList directives).entries.flatMap
        fun entry => (ofList directives).assignmentsOf entry.1 entry.2
    _ ~ (ofList directives).entries.flatMap fun entry =>
          (directives.filter (·.plugin = entry.1)).flatMap Directive.assignments :=
        List.Perm.flatMap_left _ fun entry he => h.assignmentsOf_perm hn he
    _ = ((ofList directives).plugins.flatMap fun plugin =>
          directives.filter (·.plugin = plugin)).flatMap Directive.assignments := by
        rw [plugins, List.flatMap_map, List.flatMap_assoc]
    _ ~ directives.flatMap Directive.assignments :=
        .flatMap_right _ (perm_flatMap_filter h.nodup fun d hd =>
          (h.mem_iff _).2 (List.mem_map_of_mem hd))

end DirectiveLog

end ProtocInvocation
