import ProtocInvocation.Proofs.Plugin.Directives
import ProtocInvocation.Proofs.Plugin.Recording
import ProtocInvocation.Proofs.Text.Cut

/-!
# What a table collects

What a directive or a path gives to a part of a plugin is said of its value alone
(`Directive.given?`, `pathTo?`). A table that recorded some directives and paths without a fault
holds what they give, and nothing else (`PluginTable.collects_of_record`), so their order does not
show in it (`PluginTable.Collects.unique`).
-/

namespace ProtocInvocation

open scoped List

/-! ## Parts of a value -/

/-- The options and the location in the value of an output directive, around its first colon. A
value with no colon is a location. -/
def outputParts (value : String) : String × String :=
  match Text.cut ':' value with
  | (location, none) => ("", location)
  | (options, some location) => (options, location)

theorem outputParts_eq_empty_iff {value : String} :
    outputParts value = ("", "") ↔ value = "" ∨ value = ":" := by
  constructor
  · intro h
    rw [outputParts] at h
    match hc : Text.cut ':' value with
    | (location, none) =>
        rw [hc] at h
        obtain rfl := Text.eq_of_cut hc
        exact .inl (Prod.mk.inj h).2
    | (options, some location) =>
        rw [hc] at h
        obtain ⟨rfl, rfl⟩ := Prod.mk.inj h
        exact .inr (Text.eq_append_of_cut hc)
  · rintro (rfl | rfl)
    · rfl
    · rfl

theorem eq_outputParts_of_splitOut {plugin value : String} {parts : Option String × String}
    (h : splitOut plugin value = .ok parts) :
    parts = (PluginPart.opt.read (outputParts value).1, (outputParts value).2) := by
  simp only [outputParts]
  match hc : Text.cut ':' value with
  | (location, none) =>
      rw [splitOut, Text.pieces_eq, hc] at h
      exact (Except.ok.inj h).symm
  | (options, some rest) =>
      rw [splitOut, Text.pieces_eq, hc] at h
      simp only [Option.elim_some] at h
      rw [Text.pieces_eq] at h
      match hr : Text.cut ':' rest with
      | (location, none) =>
          obtain rfl := Text.eq_of_cut hr
          rw [hr] at h
          exact (Except.ok.inj h).symm
      | (location, some later) =>
          rw [hr] at h
          simp only [Option.elim_some] at h
          rw [Text.pieces_eq] at h
          cases h

theorem outAssignments_of_notMem {plugin location : String} (h : ':' ∉ location.toList) :
    outAssignments plugin location = [.ok ⟨plugin, .out, location⟩] := by
  rw [outAssignments, splitOut, Text.pieces_of_notMem h]

/-- Options before the colon are assigned as those of a directive for options are. -/
theorem outAssignments_append {plugin options location : String} (ho : options ≠ "")
    (hoc : ':' ∉ options.toList) (hlc : ':' ∉ location.toList) :
    outAssignments plugin (options ++ ":" ++ location) =
      [.ok ⟨plugin, .out, location⟩, .ok ⟨plugin, .opt, options⟩] := by
  have hcut : Text.cut ':' (options ++ ":" ++ location) = (options, some location) :=
    Text.cut_append hoc
  rw [outAssignments, splitOut, Text.pieces_eq, hcut]
  simp [Text.pieces_of_notMem hlc, ho]

theorem outAssignments_eq {plugin value : String}
    (h : ∀ fault, .error fault ∉ outAssignments plugin value) :
    outAssignments plugin value = .ok ⟨plugin, .out, (outputParts value).2⟩ ::
      ((PluginPart.opt.read (outputParts value).1).map
        fun opt => .ok ⟨plugin, .opt, opt⟩).toList := by
  cases hs : splitOut plugin value with
  | error fault => exact absurd (by simp [outAssignments, hs]) (h fault)
  | ok parts =>
      obtain rfl := eq_outputParts_of_splitOut hs
      rw [outAssignments, hs]
      cases PluginPart.opt.read (outputParts value).1 <;> rfl

/-- The value of an output directive has no fault exactly if it has no second colon. -/
theorem error_notMem_outAssignments_iff {plugin value : String} :
    (∀ fault, .error fault ∉ outAssignments plugin value) ↔ value.toList.count ':' ≤ 1 := by
  have hlength := Text.length_pieces ':' value
  rw [outAssignments, splitOut]
  match hp : Text.pieces ':' value with
  | [] => exact absurd hp (Text.pieces_ne_nil ':' value)
  | [location] =>
      rw [hp] at hlength
      have hcount : value.toList.count ':' ≤ 1 := by simp at hlength; omega
      simpa using hcount
  | [options, location] =>
      rw [hp] at hlength
      have hcount : value.toList.count ':' ≤ 1 := by simp at hlength; omega
      by_cases ho : options = "" <;> simpa [ho] using hcount
  | first :: second :: third :: later =>
      rw [hp] at hlength
      have hcount : ¬value.toList.count ':' ≤ 1 := by simp at hlength; omega
      simpa using hcount

/-! ## What is given -/

namespace Directive

variable {d : Directive} {a : Assignment} {plugin : String} {part : PluginPart}

/-- What a directive gives to this part of its plugin. -/
def given? (part : PluginPart) (d : Directive) : Option String :=
  match d.kind, part with
  | .out, .out => PluginPart.out.read (outputParts d.value).2
  | .out, .opt => PluginPart.opt.read (outputParts d.value).1
  | .opt, .opt => PluginPart.opt.read d.value
  | _, _ => none

/-- What a directive gives to this part of this plugin. -/
def givenTo? (plugin : String) (part : PluginPart) (d : Directive) : Option String :=
  if d.plugin = plugin then d.given? part else none

/-- Whether the value of a directive says nothing at all. -/
def IsBlank (d : Directive) : Prop :=
  d.value = "" ∨ (d.kind = .out ∧ d.value = ":")

theorem given?_eq_none_iff : (∀ part, d.given? part = none) ↔ d.IsBlank := by
  obtain ⟨plugin, kind, value⟩ := d
  cases kind with
  | opt =>
      constructor
      · intro h
        exact .inl (by simpa [given?, PluginPart.read] using h .opt)
      · rintro (rfl | ⟨⟨⟩, _⟩) part
        cases part <;> rfl
  | out =>
      constructor
      · intro h
        have hlocation : (outputParts value).2 = "" := by
          simpa [given?, PluginPart.read] using h .out
        have hoptions : (outputParts value).1 = "" := by
          simpa [given?, PluginPart.read] using h .opt
        have hvalue := outputParts_eq_empty_iff.1 (Prod.ext hoptions hlocation)
        exact hvalue.imp_right fun hv => ⟨rfl, hv⟩
      · rintro h part
        have hparts := outputParts_eq_empty_iff.2 (h.imp_right And.right)
        cases part <;> simp [given?, PluginPart.read, hparts]

theorem given?_path : d.given? .path = none := by
  obtain ⟨name, kind, value⟩ := d
  cases kind <;> rfl

theorem givenTo?_path : d.givenTo? plugin .path = none := by
  rw [givenTo?, given?_path, ite_self]

theorem plugin_of_mem_assignments (h : .ok a ∈ d.assignments) : a.plugin = d.plugin := by
  obtain ⟨plugin, kind, value⟩ := d
  cases kind with
  | opt =>
      obtain rfl := Except.ok.inj (List.mem_singleton.1 h)
      rfl
  | out =>
      simp only [assignments, DirectiveKind.assignments, outAssignments] at h
      split at h
      · rcases List.mem_singleton.1 h with ⟨⟩
      · obtain rfl := Except.ok.inj (List.mem_singleton.1 h)
        rfl
      · rcases List.mem_cons.1 h with h | h
        · obtain rfl := Except.ok.inj h
          rfl
        · obtain rfl := Except.ok.inj (List.mem_singleton.1 h)
          rfl

/-- A directive without a fault assigns to the part of its kind. -/
theorem exists_mem_assignments (h : ∀ fault, .error fault ∉ d.assignments) :
    ∃ a, .ok a ∈ d.assignments ∧ a.plugin = d.plugin ∧ a.part = d.kind.part ∧
      a.given? = d.given? d.kind.part := by
  obtain ⟨plugin, kind, value⟩ := d
  cases kind with
  | opt => exact ⟨⟨plugin, .opt, value⟩, List.mem_singleton_self _, rfl, rfl, rfl⟩
  | out =>
      refine ⟨⟨plugin, .out, (outputParts value).2⟩, ?_, rfl, rfl, rfl⟩
      have he := outAssignments_eq h
      rw [assignments, DirectiveKind.assignments, he]
      exact List.mem_cons_self

/-- What a directive without a fault gives is what its assignments give. -/
theorem filterMap_assignments (h : ∀ fault, .error fault ∉ d.assignments) :
    d.assignments.filterMap (Assignment.madeTo? plugin part) = (d.givenTo? plugin part).toList := by
  have hmade (name text : String) (given : PluginPart) :
      Assignment.madeTo? plugin part (.ok ⟨name, given, text⟩) =
        if name = plugin ∧ given = part then given.read text else none := rfl
  rw [List.filterMap_eq_flatMap_toList]
  obtain ⟨name, kind, value⟩ := d
  cases kind with
  | opt =>
      by_cases hp : name = plugin
      · cases part <;> simp [assignments, DirectiveKind.assignments, hmade, givenTo?, given?, hp]
      · simp [assignments, DirectiveKind.assignments, hmade, givenTo?, hp]
  | out =>
      have he := outAssignments_eq h
      rw [assignments, DirectiveKind.assignments, he]
      by_cases hp : name = plugin
      · cases ho : PluginPart.opt.read (outputParts value).1 with
        | none => cases part <;> simp [hmade, givenTo?, given?, hp, ho]
        | some opt =>
            obtain rfl := PluginPart.eq_of_read ho
            cases part <;> simp [hmade, givenTo?, given?, hp, ho]
      · cases PluginPart.opt.read (outputParts value).1 <;> simp [hmade, givenTo?, hp]

end Directive

/-! ## Paths -/

/-- The plugin that an explicit plugin path is of. -/
def pathPlugin? (value : String) : Option String :=
  Text.dropLead? executableLead (namedPath value).1

/-- The path that an explicit plugin path gives to this plugin. -/
def pathTo? (plugin value : String) : Option String :=
  if pathPlugin? value = some plugin then some (namedPath value).2 else none

theorem eq_of_pathAssignment {value : String} {a : Assignment} (h : pathAssignment value = .ok a) :
    pathPlugin? value = some a.plugin ∧ a = ⟨a.plugin, .path, (namedPath value).2⟩ := by
  rw [pathAssignment] at h
  split at h
  · cases h
  split at h
  · rename_i plugin hp
    obtain rfl := Except.ok.inj h
    exact ⟨hp, rfl⟩
  · cases h

theorem pathPlugin?_eq_some_iff {plugin value : String} :
    pathPlugin? value = some plugin ↔ (namedPath value).1 = executableLead ++ plugin :=
  Text.dropLead?_eq_some_iff

theorem pathAssignment_of_pathPlugin? {plugin value : String}
    (h : pathPlugin? value = some plugin) :
    pathAssignment value = .ok ⟨plugin, .path, (namedPath value).2⟩ := by
  have hne : value ≠ "" := by
    rintro rfl
    cases h
  rw [pathPlugin?] at h
  rw [pathAssignment, if_neg hne, h]

theorem pathAssignment_eq_error_iff {value : String} {fault : Fault} :
    pathAssignment value = .error fault ↔ (value = "" ∧ fault = .emptyPluginPath) ∨
      (value ≠ "" ∧ pathPlugin? value = none ∧ fault = .notPluginName (namedPath value).1) := by
  rw [pathAssignment, pathPlugin?]
  split
  · rename_i he
    simp [he, eq_comm]
  · rename_i hne
    cases Text.dropLead? executableLead (namedPath value).1 <;> simp [hne, eq_comm]

theorem madeTo?_pathAssignment {plugin value : String} {part : PluginPart} {a : Assignment}
    (h : pathAssignment value = .ok a) :
    Assignment.madeTo? plugin part (pathAssignment value) =
      if part = .path then pathTo? plugin value else none := by
  obtain ⟨hp, ha⟩ := eq_of_pathAssignment h
  calc Assignment.madeTo? plugin part (pathAssignment value)
    _ = Assignment.givenTo? plugin part ⟨a.plugin, .path, (namedPath value).2⟩ := by
        rw [h, ← ha]
        rfl
    _ = if part = .path then pathTo? plugin value else none := by
        rw [Assignment.givenTo?, pathTo?, hp]
        cases part <;> simp [Assignment.given?, PluginPart.read]

/-- What explicit plugin paths without a fault give is paths. -/
theorem filterMap_map_pathAssignment {plugin : String} {part : PluginPart} {values : List String}
    (h : ∀ value ∈ values, ∃ a, pathAssignment value = .ok a) :
    (values.map pathAssignment).filterMap (Assignment.madeTo? plugin part) =
      if part = .path then values.filterMap (pathTo? plugin) else [] := by
  rw [List.filterMap_map]
  trans values.filterMap fun value => if part = .path then pathTo? plugin value else none
  · refine List.filterMap_congr fun value hm => ?_
    obtain ⟨a, ha⟩ := h value hm
    exact madeTo?_pathAssignment ha
  · split <;> simp

/-! ## Tables -/

namespace PluginTable

/-- A table holds what directives and paths give to plugins, and nothing else: each part has the one
value that is given to it, if any. -/
structure Collects (table : PluginTable) (directives : List Directive) (paths : List String) :
    Prop where
  isSome_get?_iff : ∀ plugin, (table.get? plugin).isSome ↔
    plugin ∈ directives.map Directive.plugin ∨ plugin ∈ paths.filterMap pathPlugin?
  out_eq : ∀ {plugin entry}, table.get? plugin = some entry →
    directives.filterMap (Directive.givenTo? plugin .out) =
      if entry.out = "" then [] else [entry.out]
  opt_eq : ∀ {plugin entry}, table.get? plugin = some entry →
    directives.filterMap (Directive.givenTo? plugin .opt) = entry.opt.toList
  path_eq : ∀ {plugin entry}, table.get? plugin = some entry →
    paths.filterMap (pathTo? plugin) = entry.path.toList

variable {table other : PluginTable} {directives : List Directive} {paths : List String}

theorem filterMap_given {plugin : String} {part : PluginPart}
    (hd : ∀ d ∈ directives, ∀ fault, .error fault ∉ d.assignments)
    (hp : ∀ value ∈ paths, ∃ a, pathAssignment value = .ok a) :
    (directives.flatMap Directive.assignments ++ paths.map pathAssignment).filterMap
        (Assignment.madeTo? plugin part) =
      directives.filterMap (Directive.givenTo? plugin part) ++
        if part = .path then paths.filterMap (pathTo? plugin) else [] := by
  have hdirectives : (directives.flatMap Directive.assignments).filterMap
      (Assignment.madeTo? plugin part) = directives.filterMap (Directive.givenTo? plugin part) := by
    rw [List.filterMap_flatMap, List.filterMap_eq_flatMap_toList]
    exact List.flatMap_congr fun d hm => Directive.filterMap_assignments (hd d hm)
  rw [List.filterMap_append, hdirectives, filterMap_map_pathAssignment hp]

/-- A list that is at most one item in another order is that item. -/
theorem eq_toList_of_perm {α : Type} {items : List α} {item? : Option α}
    (h : items ~ item?.toList) : items = item?.toList := by
  cases item? with
  | none => exact List.perm_nil.1 h
  | some item => exact List.perm_singleton.1 h

section Record

variable {assignments : List (Except Fault Assignment)}

/-- What was recorded without a fault is collected. -/
theorem collects_of_record (hr : empty.record assignments = (.ok (), table))
    (ha : assignments ~ directives.flatMap Directive.assignments ++ paths.map pathAssignment) :
    table.Collects directives paths := by
  have hfault (fault : Fault) :
      .error fault ∉ directives.flatMap Directive.assignments ++ paths.map pathAssignment :=
    fun h => error_notMem_of_record hr fault (ha.mem_iff.2 h)
  have hd : ∀ d ∈ directives, ∀ fault, .error fault ∉ d.assignments := fun d hm fault h =>
    hfault fault (List.mem_append_left _ (List.mem_flatMap.2 ⟨d, hm, h⟩))
  have hp : ∀ value ∈ paths, ∃ a, pathAssignment value = .ok a := fun value hm =>
    exists_ok_of_error_notMem_map (fun fault h => hfault fault (List.mem_append_right _ h)) hm
  have hgiven (plugin : String) (part : PluginPart) :
      (directives.filterMap (Directive.givenTo? plugin part) ++
        if part = .path then paths.filterMap (pathTo? plugin) else []) =
          (table.value? plugin part).toList := by
    refine eq_toList_of_perm ?_
    rw [← filterMap_given hd hp, toList_value?_of_record hr]
    exact ha.symm.filterMap _
  refine ⟨fun plugin => ?_, fun {plugin e} h => ?_, fun {plugin e} h => ?_, fun {plugin e} h => ?_⟩
  · rw [isSome_get?_of_record hr]
    constructor
    · rintro ⟨a, hm, rfl⟩
      rcases List.mem_append.1 (ha.mem_iff.1 hm) with hm | hm
      · obtain ⟨d, hd, hm⟩ := List.mem_flatMap.1 hm
        exact .inl (List.mem_map.2 ⟨d, hd, (Directive.plugin_of_mem_assignments hm).symm⟩)
      · obtain ⟨value, hv, hm⟩ := List.mem_map.1 hm
        exact .inr (List.mem_filterMap.2 ⟨value, hv, (eq_of_pathAssignment hm).1⟩)
    · rintro (hm | hm)
      · obtain ⟨d, hdm, rfl⟩ := List.mem_map.1 hm
        obtain ⟨a, hma, hpa, _⟩ := Directive.exists_mem_assignments (hd d hdm)
        exact ⟨a, ha.mem_iff.2 (List.mem_append_left _ (List.mem_flatMap.2 ⟨d, hdm, hma⟩)), hpa⟩
      · obtain ⟨value, hm, hpp⟩ := List.mem_filterMap.1 hm
        obtain ⟨a, hva⟩ := hp value hm
        refine ⟨a, ha.mem_iff.2 (List.mem_append_right _ (List.mem_map.2 ⟨value, hm, hva⟩)), ?_⟩
        exact Option.some.inj ((eq_of_pathAssignment hva).1.symm.trans hpp)
  · have hg := hgiven plugin .out
    rw [value?_of_get? h] at hg
    simp only [reduceCtorEq, if_false, List.append_nil] at hg
    rw [hg, PluginEntry.value?, PluginPart.read]
    split <;> rfl
  · have hg := hgiven plugin .opt
    rw [value?_of_get? h] at hg
    simpa [PluginEntry.value?] using hg
  · have hg := hgiven plugin .path
    rw [value?_of_get? h] at hg
    simpa [PluginEntry.value?, Directive.givenTo?_path] using hg

end Record

namespace Collects

variable {directives' : List Directive} {paths' : List String}

theorem toList_value? {plugin : String} {e : PluginEntry} (h : table.Collects directives paths)
    (he : table.get? plugin = some e) (part : PluginPart) :
    (e.value? part).toList = directives.filterMap (Directive.givenTo? plugin part) ++
      if part = .path then paths.filterMap (pathTo? plugin) else [] := by
  cases part with
  | out =>
      simp only [reduceCtorEq, if_false, List.append_nil]
      rw [h.out_eq he, PluginEntry.value?, PluginPart.read]
      split <;> rfl
  | opt =>
      simp only [reduceCtorEq, if_false, List.append_nil]
      exact (h.opt_eq he).symm
  | path =>
      simp only [Directive.givenTo?_path, List.filterMap_none, List.nil_append, if_true]
      exact (h.path_eq he).symm

theorem out_eq_empty_iff {plugin : String} {e : PluginEntry} (h : table.Collects directives paths)
    (he : table.get? plugin = some e) :
    e.out = "" ↔ ∀ d ∈ directives, d.plugin = plugin → d.given? .out = none := by
  have hnil : e.out = "" ↔ directives.filterMap (Directive.givenTo? plugin .out) = [] := by
    rw [h.out_eq he]
    by_cases ho : e.out = "" <;> simp [ho]
  rw [hnil, List.filterMap_eq_nil_iff]
  simp [Directive.givenTo?]

/-- An entry is blank if and only if all directives of its plugin are, and no path is of it. -/
theorem eq_blank_iff {plugin : String} {e : PluginEntry} (h : table.Collects directives paths)
    (he : table.get? plugin = some e) :
    e = {} ↔ (∀ d ∈ directives, d.plugin = plugin → d.IsBlank) ∧
      plugin ∉ paths.filterMap pathPlugin? := by
  constructor
  · rintro rfl
    have hnil (part : PluginPart) : directives.filterMap (Directive.givenTo? plugin part) = [] ∧
        (if part = .path then paths.filterMap (pathTo? plugin) else []) = [] := by
      rw [← List.append_eq_nil_iff, ← h.toList_value? he, PluginEntry.value?_blank]
      rfl
    constructor
    · intro d hd hp
      refine Directive.given?_eq_none_iff.1 fun part => ?_
      simpa [Directive.givenTo?, hp] using List.filterMap_eq_nil_iff.1 (hnil part).1 d hd
    · intro hm
      obtain ⟨value, hv, hp⟩ := List.mem_filterMap.1 hm
      simpa [pathTo?, hp] using List.filterMap_eq_nil_iff.1 (hnil .path).2 value hv
  · rintro ⟨hd, hp⟩
    refine PluginEntry.ext_value? fun part => ?_
    rw [PluginEntry.value?_blank, ← Option.toList_eq_nil_iff, h.toList_value? he,
      List.append_eq_nil_iff]
    constructor
    · refine List.filterMap_eq_nil_iff.2 fun d hm => ?_
      rw [Directive.givenTo?]
      split
      · rename_i hdp
        exact Directive.given?_eq_none_iff.2 (hd d hm hdp) part
      · rfl
    · split
      · refine List.filterMap_eq_nil_iff.2 fun value hm => ?_
        rw [pathTo?, if_neg]
        exact fun hv => hp (List.mem_filterMap.2 ⟨value, hm, hv⟩)
      · rfl

/-- The order of what was recorded does not show in a table. -/
theorem unique (h : table.Collects directives paths) (h' : other.Collects directives' paths')
    (hd : directives ~ directives') (hp : paths ~ paths') : table = other := by
  have hkeys (plugin : String) : (table.get? plugin).isSome ↔ (other.get? plugin).isSome := by
    rw [h.isSome_get?_iff, h'.isSome_get?_iff, (hd.map _).mem_iff, (hp.filterMap _).mem_iff]
  refine ext_value? hkeys fun plugin part => ?_
  cases he : table.get? plugin with
  | none =>
      have hnone : other.get? plugin = none := by simpa [he] using hkeys plugin
      simp [value?, entry, he, hnone]
  | some e =>
      obtain ⟨f, hf⟩ := Option.isSome_iff_exists.1 ((hkeys plugin).1 (Option.isSome_of_eq_some he))
      rw [value?_of_get? he, value?_of_get? hf]
      have hperm : (e.value? part).toList ~ (f.value? part).toList := by
        rw [h.toList_value? he, h'.toList_value? hf]
        refine (hd.filterMap _).append ?_
        split
        · exact hp.filterMap _
        · exact .nil
      simpa using congrArg List.head? (eq_toList_of_perm hperm)

end Collects

end PluginTable

end ProtocInvocation
