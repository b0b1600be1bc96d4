import Mathlib.Data.List.Basic
import ProtocInvocation.Fallible
import ProtocInvocation.Plugin.Assignment

/-!
# Recording assignments

A run of assignments ends well exactly if every part was free at the start and only assignments
without a value are followed by others to the same part (`exists_foldlM_assign_iff`). What a part
holds then is what it held before and what the run gave to it, of which there is at most one value
(`toList_value?_append`). Otherwise it ends at the first assignment that is refused and keeps those
before it (`record_eq_error_iff`).
-/

namespace ProtocInvocation

open scoped List

/-! ## Values of parts -/

/-- A list that fills up an optional item fills it only if it was none. -/
theorem eq_or_of_toList_eq {α : Type} {before after : Option α} {given : List α}
    (h : after.toList = before.toList ++ given) : after = given.head?.or before := by
  cases given with
  | nil => simpa using congrArg List.head? h
  | cons a given =>
      cases before with
      | none => simpa using congrArg List.head? h
      | some b =>
          have hlength := congrArg List.length h
          cases after <;> simp at hlength

/-- The value that a text is for a part. An empty path is a path, other empty texts are nothing. -/
def PluginPart.read : PluginPart → String → Option String
  | .out, text | .opt, text => if text = "" then none else some text
  | .path, text => some text

theorem PluginPart.eq_of_read {part : PluginPart} {text value : String}
    (h : part.read text = some value) : value = text := by
  cases part with
  | path => exact (Option.some.inj h).symm
  | _ => exact (by simpa [read] using h : text ≠ "" ∧ text = value).2.symm

namespace PluginEntry

variable {entry other : PluginEntry} {part : PluginPart} {text : String}

/-- The value of a part. -/
def value? (entry : PluginEntry) : PluginPart → Option String
  | .out => PluginPart.out.read entry.out
  | .opt => entry.opt
  | .path => entry.path

theorem isTaken_eq : entry.isTaken part = (entry.value? part).isSome := by
  cases part with
  | out => by_cases h : entry.out = "" <;> simp [isTaken, value?, PluginPart.read, h]
  | opt => rfl
  | path => rfl

theorem value?_blank : ({} : PluginEntry).value? part = none := by
  cases part <;> rfl

theorem value?_assign {given : PluginPart} :
    (entry.assign text given).value? part = if part = given then given.read text
      else entry.value? part := by
  cases given <;> cases part <;> rfl

theorem ext_value? (h : ∀ part, entry.value? part = other.value? part) : entry = other := by
  obtain ⟨out, opt, path⟩ := entry
  obtain ⟨out', opt', path'⟩ := other
  have ho : out = out' := by
    have := h .out
    simp only [value?, PluginPart.read] at this
    split at this <;> split at this <;> simp_all
  have hp : opt = opt' := h .opt
  have hq : path = path' := h .path
  rw [ho, hp, hq]

end PluginEntry

namespace Assignment

/-- The value that an assignment gives to its part. -/
def given? (a : Assignment) : Option String :=
  a.part.read a.value

/-- The value that an assignment gives to this part of this plugin. -/
def givenTo? (plugin : String) (part : PluginPart) (a : Assignment) : Option String :=
  if a.plugin = plugin ∧ a.part = part then a.given? else none

/-- The value that an entry of a list of assignments gives to this part of this plugin. -/
def madeTo? (plugin : String) (part : PluginPart) : Except Fault Assignment → Option String
  | .ok a => a.givenTo? plugin part
  | .error _ => none

/-- Whether an entry of a list of assignments is to this part, of whatever plugin. -/
def isTo (part : PluginPart) : Except Fault Assignment → Bool
  | .ok a => a.part = part
  | .error _ => false

/-- Whether two assignments are to the same part of the same plugin. -/
def SamePart (a b : Assignment) : Prop :=
  a.plugin = b.plugin ∧ a.part = b.part

end Assignment

/-! ## Values in a table -/

namespace PluginTable

variable {table other after : PluginTable} {a : Assignment} {plugin : String} {part : PluginPart}

/-- The value of a part of a plugin's entry. -/
def value? (table : PluginTable) (plugin : String) (part : PluginPart) : Option String :=
  (table.entry plugin).value? part

theorem entry_insert {new : PluginEntry} {name : String} :
    (table.insert name new).entry plugin = if plugin = name then new else table.entry plugin := by
  simp only [entry, get?_insert]
  split <;> rfl

theorem mem_entries_of_get? {e : PluginEntry} (h : table.get? plugin = some e) :
    (plugin, e) ∈ table.entries := by
  obtain ⟨earlier, later, he, _⟩ := List.lookup_eq_some_iff.1 h
  rw [he]
  exact List.mem_append_right _ List.mem_cons_self

theorem value?_of_get? {e : PluginEntry} (h : table.get? plugin = some e) :
    table.value? plugin part = e.value? part := by
  rw [value?, entry, h]
  rfl

theorem get?_eq_of_entry_eq {e : PluginEntry} (h : table.entry plugin = e)
    (hs : (table.get? plugin).isSome) : table.get? plugin = some e := by
  obtain ⟨f, hf⟩ := Option.isSome_iff_exists.1 hs
  rw [entry, hf] at h
  exact hf.trans (congrArg some h)

/-- An entry that is as it was before is there exactly if it was. -/
theorem get?_eq_get?_of_entry_eq (h : table.entry plugin = other.entry plugin)
    (hs : (table.get? plugin).isSome ↔ (other.get? plugin).isSome) :
    table.get? plugin = other.get? plugin := by
  cases ho : other.get? plugin with
  | none => simpa [ho] using hs
  | some e =>
      rw [get?_eq_of_entry_eq h (hs.2 (Option.isSome_of_eq_some ho)), entry, ho]
      rfl

theorem ext_value? (hs : ∀ plugin, (table.get? plugin).isSome ↔ (other.get? plugin).isSome)
    (hv : ∀ plugin part, table.value? plugin part = other.value? plugin part) : table = other := by
  exact ext_get? fun plugin =>
    get?_eq_get?_of_entry_eq (PluginEntry.ext_value? (hv plugin)) (hs plugin)

/-! ## One assignment -/

theorem assign_eq_ok_iff : table.assign a = .ok after ↔ table.value? a.plugin a.part = none ∧
    after = table.insert a.plugin ((table.entry a.plugin).assign a.value a.part) := by
  rw [assign, PluginEntry.isTaken_eq, ← value?]
  cases h : table.value? a.plugin a.part with
  | none => simp [eq_comm]
  | some text => simp

theorem assign_eq_error_iff {fault : Fault} : table.assign a = .error fault ↔
    table.value? a.plugin a.part ≠ none ∧ fault = a.part.duplicate a.plugin := by
  rw [assign, PluginEntry.isTaken_eq, ← value?]
  cases h : table.value? a.plugin a.part with
  | none => simp
  | some text => simp [eq_comm]

theorem value?_of_assign (h : table.assign a = .ok after) :
    after.value? plugin part =
      if a.plugin = plugin ∧ a.part = part then a.given? else table.value? plugin part := by
  obtain ⟨_, rfl⟩ := assign_eq_ok_iff.1 h
  rw [value?, entry_insert]
  by_cases hp : plugin = a.plugin
  · subst hp
    rw [if_pos rfl, PluginEntry.value?_assign]
    by_cases hq : part = a.part
    · simp [hq, Assignment.given?]
    · simp [hq, Ne.symm hq, value?]
  · simp [hp, Ne.symm hp, value?]

theorem isSome_get?_of_assign (h : table.assign a = .ok after) :
    (after.get? plugin).isSome ↔ a.plugin = plugin ∨ (table.get? plugin).isSome := by
  obtain ⟨_, rfl⟩ := assign_eq_ok_iff.1 h
  rw [get?_insert]
  by_cases hp : plugin = a.plugin
  · simp [hp]
  · simp [hp, Ne.symm hp]

/-- An assignment adds to a part what it gives to it. -/
theorem toList_value?_of_assign (h : table.assign a = .ok after) :
    (after.value? plugin part).toList =
      (table.value? plugin part).toList ++ (a.givenTo? plugin part).toList := by
  rw [value?_of_assign h, Assignment.givenTo?]
  by_cases hp : a.plugin = plugin ∧ a.part = part
  · obtain ⟨rfl, rfl⟩ := hp
    simp [(assign_eq_ok_iff.1 h).1]
  · simp [hp]

/-! ## Runs -/

theorem record_append {earlier later : List (Except Fault Assignment)}
    (h : table.record earlier = (.ok (), after)) :
    table.record (earlier ++ later) = after.record later := by
  induction earlier generalizing table with
  | nil =>
      obtain rfl : table = after := congrArg Prod.snd h
      rfl
  | cons first earlier ih =>
      cases first with
      | error fault => simp [record] at h
      | ok a =>
          simp only [List.cons_append, record] at h ⊢
          split at h
          · simp at h
          · exact ih h

theorem record_append_eq_ok_iff {earlier later : List (Except Fault Assignment)} :
    table.record (earlier ++ later) = (.ok (), after) ↔
      ∃ between, table.record earlier = (.ok (), between) ∧
        between.record later = (.ok (), after) := by
  induction earlier generalizing table with
  | nil => simp [record]
  | cons first earlier ih =>
      cases first with
      | error fault => simp [record]
      | ok a =>
          simp only [List.cons_append, record]
          cases table.assign a with
          | error fault => simp
          | ok between => simpa using ih

/-- Recording ends well if there is no fault in the list and no assignment is refused. -/
theorem record_eq_ok_iff {assignments : List (Except Fault Assignment)} :
    table.record assignments = (.ok (), after) ↔
      ∃ made : List Assignment, assignments = made.map .ok ∧
        made.foldlM assign table = .ok after := by
  induction assignments generalizing table with
  | nil =>
      constructor
      · intro h
        obtain rfl : table = after := congrArg Prod.snd h
        exact ⟨[], rfl, rfl⟩
      · rintro ⟨made, hm, hr⟩
        obtain rfl : made = [] := List.map_eq_nil_iff.1 hm.symm
        obtain rfl : table = after := Except.ok.inj hr
        rfl
  | cons first later ih =>
      constructor
      · intro h
        cases first with
        | error fault => simp [record] at h
        | ok a =>
            simp only [record] at h
            split at h
            · simp at h
            · rename_i between ha
              obtain ⟨made, rfl, hr⟩ := ih.1 h
              exact ⟨a :: made, rfl, by rw [List.foldlM_cons, ha]; exact hr⟩
      · rintro ⟨made, hm, hr⟩
        obtain ⟨a, made, rfl, rfl, rfl⟩ := List.map_eq_cons_iff.1 hm.symm
        obtain ⟨between, ha, hr⟩ := bind_eq_ok_iff.1 hr
        simp only [record, ha]
        exact ih.2 ⟨made, rfl, hr⟩

/-- Recording ends at the first entry that is a fault or is refused, and what was assigned before it
stays. -/
theorem record_eq_error_iff {assignments : List (Except Fault Assignment)} {fault : Fault} :
    table.record assignments = (.error fault, after) ↔
      ∃ earlier x later, assignments = earlier ++ x :: later ∧
        table.record earlier = (.ok (), after) ∧
        (x = .error fault ∨ ∃ a, x = .ok a ∧ after.assign a = .error fault) := by
  constructor
  · intro h
    induction assignments generalizing table with
    | nil => simp [record] at h
    | cons first later ih =>
        cases first with
        | error fault' =>
            simp only [record, Prod.mk.injEq, Except.error.injEq] at h
            obtain ⟨rfl, rfl⟩ := h
            exact ⟨[], _, later, rfl, rfl, .inl rfl⟩
        | ok a =>
            simp only [record] at h
            split at h
            · rename_i fault' ha
              simp only [Prod.mk.injEq, Except.error.injEq] at h
              obtain ⟨rfl, rfl⟩ := h
              exact ⟨[], _, later, rfl, rfl, .inr ⟨a, rfl, ha⟩⟩
            · rename_i between ha
              obtain ⟨earlier, x, later, rfl, hr, hx⟩ := ih h
              exact ⟨.ok a :: earlier, x, later, rfl, by simpa only [record, ha] using hr, hx⟩
  · rintro ⟨earlier, x, later, rfl, hr, rfl | ⟨a, rfl, ha⟩⟩
    · rw [record_append hr]
      rfl
    · rw [record_append hr]
      simp only [record, ha]

variable {made : List Assignment}

theorem toList_value?_append (h : made.foldlM assign table = .ok after) :
    (after.value? plugin part).toList =
      (table.value? plugin part).toList ++ made.filterMap (Assignment.givenTo? plugin part) := by
  induction made generalizing table with
  | nil =>
      obtain rfl : table = after := Except.ok.inj h
      simp
  | cons a made ih =>
      obtain ⟨between, ha, hr⟩ := bind_eq_ok_iff.1 h
      rw [ih hr, toList_value?_of_assign ha, List.append_assoc, List.filterMap_cons]
      cases a.givenTo? plugin part <;> rfl

theorem isSome_get?_of_foldlM (h : made.foldlM assign table = .ok after) :
    (after.get? plugin).isSome ↔
      (table.get? plugin).isSome ∨ plugin ∈ made.map Assignment.plugin := by
  induction made generalizing table with
  | nil =>
      obtain rfl : table = after := Except.ok.inj h
      simp
  | cons a made ih =>
      obtain ⟨between, ha, hr⟩ := bind_eq_ok_iff.1 h
      rw [ih hr, isSome_get?_of_assign ha, List.map_cons, List.mem_cons]
      constructor
      · rintro ((rfl | hb) | hm)
        · exact .inr (.inl rfl)
        · exact .inl hb
        · exact .inr (.inr hm)
      · rintro (hb | rfl | hm)
        · exact .inl (.inr hb)
        · exact .inl (.inl rfl)
        · exact .inr hm

/-- A run ends well if and only if the parts it assigns to are free at the start and no assignment
that gives a value is followed by one to the same part. -/
theorem exists_foldlM_assign_iff :
    (∃ after, made.foldlM assign table = .ok after) ↔
      (∀ a ∈ made, table.value? a.plugin a.part = none) ∧
        made.Pairwise fun a b => a.SamePart b → a.given? = none := by
  induction made generalizing table with
  | nil => simpa using ⟨table, rfl⟩
  | cons a made ih =>
      rw [List.pairwise_cons]
      constructor
      · rintro ⟨after, h⟩
        obtain ⟨between, ha, hr⟩ := bind_eq_ok_iff.1 h
        obtain ⟨hfree, hpair⟩ := ih.1 ⟨after, hr⟩
        refine ⟨fun b hb => ?_, fun b hb hs => ?_, hpair⟩
        · rcases List.mem_cons.1 hb with rfl | hb
          · exact (assign_eq_ok_iff.1 ha).1
          · have := hfree b hb
            rw [value?_of_assign ha] at this
            split at this
            · rename_i hs
              rw [← hs.1, ← hs.2]
              exact (assign_eq_ok_iff.1 ha).1
            · exact this
        · have := hfree b hb
          rwa [value?_of_assign ha, if_pos ⟨hs.1, hs.2⟩] at this
      · rintro ⟨hfree, hfirst, hpair⟩
        obtain ⟨between, ha⟩ : ∃ between, table.assign a = .ok between :=
          ⟨_, assign_eq_ok_iff.2 ⟨hfree a (by simp), rfl⟩⟩
        have hstill : ∀ b ∈ made, between.value? b.plugin b.part = none := by
          intro b hb
          rw [value?_of_assign ha]
          split
          · rename_i hs
            exact hfirst b hb hs
          · exact hfree b (List.mem_cons_of_mem _ hb)
        obtain ⟨after, hr⟩ := ih.2 ⟨hstill, hpair⟩
        exact ⟨after, bind_eq_ok_iff.2 ⟨_, ha, hr⟩⟩

variable {assignments : List (Except Fault Assignment)}

/-- A list of assignments is recorded if it holds no fault and its assignments can be made. -/
theorem exists_record_iff : (∃ after, table.record assignments = (.ok (), after)) ↔
    (∀ fault, .error fault ∉ assignments) ∧
      (∀ a, .ok a ∈ assignments → table.value? a.plugin a.part = none) ∧
      assignments.Pairwise (OnValues fun a b => a.SamePart b → a.given? = none) := by
  constructor
  · rintro ⟨after, h⟩
    obtain ⟨made, rfl, hrun⟩ := record_eq_ok_iff.1 h
    obtain ⟨hfree, hpair⟩ := exists_foldlM_assign_iff.1 ⟨after, hrun⟩
    exact ⟨by simp, by simpa using hfree, pairwise_onValues_map_iff.2 hpair⟩
  · rintro ⟨hfault, hfree, hpair⟩
    obtain ⟨made, rfl⟩ := exists_map_ok_of_error_notMem hfault
    obtain ⟨after, hrun⟩ := exists_foldlM_assign_iff.2
      ⟨by simpa using hfree, pairwise_onValues_map_iff.1 hpair⟩
    exact ⟨after, record_eq_ok_iff.2 ⟨made, rfl, hrun⟩⟩

theorem error_notMem_of_record (h : table.record assignments = (.ok (), after)) (fault : Fault) :
    .error fault ∉ assignments := by
  obtain ⟨made, rfl, _⟩ := record_eq_ok_iff.1 h
  simp

theorem toList_value?_append_record (h : table.record assignments = (.ok (), after)) :
    (after.value? plugin part).toList = (table.value? plugin part).toList ++
      assignments.filterMap (Assignment.madeTo? plugin part) := by
  obtain ⟨made, rfl, hr⟩ := record_eq_ok_iff.1 h
  rw [toList_value?_append hr, List.filterMap_map]
  rfl

theorem isSome_get?_append_record (h : table.record assignments = (.ok (), after)) :
    (after.get? plugin).isSome ↔
      (table.get? plugin).isSome ∨ ∃ a, .ok a ∈ assignments ∧ a.plugin = plugin := by
  obtain ⟨made, rfl, hr⟩ := record_eq_ok_iff.1 h
  rw [isSome_get?_of_foldlM hr]
  simp

/-! ## Some of the assignments -/

/-- Assignments that are recorded can be recorded without some of them. -/
theorem exists_record_of_sublist {fewer : List (Except Fault Assignment)}
    (hs : fewer <+ assignments) (h : table.record assignments = (.ok (), after)) :
    ∃ between, table.record fewer = (.ok (), between) := by
  obtain ⟨hfault, hfree, hpair⟩ := exists_record_iff.1 ⟨after, h⟩
  exact exists_record_iff.2 ⟨fun fault hm => hfault fault (hs.subset hm),
    fun a hm => hfree a (hs.subset hm), hpair.sublist hs⟩

theorem filterMap_filter_isTo :
    (assignments.filter (Assignment.isTo part)).filterMap (Assignment.madeTo? plugin part) =
      assignments.filterMap (Assignment.madeTo? plugin part) := by
  rw [List.filterMap_filter]
  refine List.filterMap_congr fun x _ => ?_
  cases x with
  | error fault => rfl
  | ok a =>
      by_cases ha : a.part = part
      · simp [Assignment.isTo, ha]
      · simp [Assignment.isTo, Assignment.madeTo?, Assignment.givenTo?, ha]

/-- The assignments to one part alone make of it what all of them do. -/
theorem exists_record_filter_isTo (h : table.record assignments = (.ok (), after))
    (part : PluginPart) :
    ∃ between, table.record (assignments.filter (Assignment.isTo part)) = (.ok (), between) ∧
      ∀ plugin, between.value? plugin part = after.value? plugin part := by
  obtain ⟨between, hr⟩ := exists_record_of_sublist List.filter_sublist h
  refine ⟨between, hr, fun plugin => ?_⟩
  have hsame : (between.value? plugin part).toList = (after.value? plugin part).toList := by
    rw [toList_value?_append_record hr, toList_value?_append_record h, filterMap_filter_isTo]
  simpa using congrArg List.head? hsame

/-! ## Tables made from nothing -/

theorem toList_value?_of_record (h : empty.record assignments = (.ok (), after)) :
    (after.value? plugin part).toList = assignments.filterMap (Assignment.madeTo? plugin part) := by
  have hnone : empty.value? plugin part = none := PluginEntry.value?_blank
  rw [toList_value?_append_record h, hnone, Option.toList_none, List.nil_append]

theorem isSome_get?_of_record (h : empty.record assignments = (.ok (), after)) :
    (after.get? plugin).isSome ↔ ∃ a, .ok a ∈ assignments ∧ a.plugin = plugin := by
  rw [isSome_get?_append_record h]
  simp

end PluginTable

end ProtocInvocation
