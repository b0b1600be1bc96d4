import Mathlib.Data.List.Nodup
import ProtocInvocation.Plugin.Log

/-!
# What a log tells of its directives

A log does not keep its directives: of one that is repeated only the value stays. The values, the
entries and the noted repeat are tied to the directives by `DirectiveLog.Represents`, which one more
directive preserves (`DirectiveLog.Represents.record`) and which therefore holds after any number of
them (`DirectiveLog.represents_ofList`). From this follows what a log tells of its directives
(`DirectiveLog.tells_ofList`).
-/

namespace ProtocInvocation

/-- A place in a list with one more item is behind all others or a place among them. -/
theorem exists_split_concat_iff {α : Type} {items : List α} {item : α}
    {holds : List α → α → List α → Prop} :
    (∃ earlier a later, items ++ [item] = earlier ++ a :: later ∧ holds earlier a later) ↔
      holds items item [] ∨
        ∃ earlier a later, items = earlier ++ a :: later ∧ holds earlier a (later ++ [item]) := by
  constructor
  · rintro ⟨earlier, a, later, he, h⟩
    rcases List.eq_nil_or_concat' later with rfl | ⟨later, b, rfl⟩
    · obtain ⟨rfl, ha⟩ := List.append_inj' he rfl
      exact .inl (List.singleton_inj.1 ha ▸ h)
    · rw [← List.cons_append, ← List.append_assoc] at he
      obtain ⟨rfl, hb⟩ := List.append_inj' he rfl
      exact .inr ⟨earlier, a, later, rfl, List.singleton_inj.1 hb ▸ h⟩
  · rintro (h | ⟨earlier, a, later, rfl, h⟩)
    · exact ⟨items, item, [], rfl, h⟩
    · exact ⟨earlier, a, later ++ [item], by simp, h⟩

namespace DirectiveLog

/-- The directives recorded in a log, as far as it keeps them. -/
structure Represents (log : DirectiveLog) (directives : List Directive) : Prop where
  /-- The values are those of the directives, in order. -/
  values_eq : log.values = directives.map Directive.value
  nodup : log.plugins.Nodup
  mem_iff : ∀ plugin, plugin ∈ log.plugins ↔ plugin ∈ directives.map Directive.plugin
  /-- A plugin stands before those whose first directive comes later. -/
  inOrder : log.plugins.Pairwise fun first second =>
    (directives.map Directive.plugin).idxOf first < (directives.map Directive.plugin).idxOf second
  unplaced_iff : ∀ plugin kind, log.lastIndex? plugin kind = none ↔
    (plugin, kind) ∉ directives.map Directive.key
  /-- An index is the place of the last directive of its plugin and kind. -/
  placed_iff : ∀ plugin kind index, log.lastIndex? plugin kind = some index ↔
    ∃ earlier d later, directives = earlier ++ d :: later ∧ d.key = (plugin, kind) ∧
      earlier.length = index ∧ (plugin, kind) ∉ later.map Directive.key
  unrepeated_iff : log.firstRepeat? = none ↔ (directives.map Directive.key).Nodup
  /-- The first to be repeated is the one whose second directive stands behind none that was. -/
  repeated_iff : ∀ key, log.firstRepeat? = some key ↔
    ∃ earlier d later, directives = earlier ++ d :: later ∧ d.key = key ∧
      (earlier.map Directive.key).Nodup ∧ d.key ∈ earlier.map Directive.key

variable {log : DirectiveLog} {directives : List Directive} {d : Directive} {plugin : String}
  {kind : DirectiveKind} {index : Nat}

/-! ## One more directive -/

namespace Represents

theorem empty : empty.Represents [] where
  values_eq := rfl
  nodup := .nil
  mem_iff _ := Iff.rfl
  inOrder := .nil
  unplaced_iff _ kind := by cases kind <;> simp [lastIndex?, places, DirectiveLog.empty]
  placed_iff _ kind _ := by cases kind <;> simp [lastIndex?, places, DirectiveLog.empty]
  unrepeated_iff := by simp [DirectiveLog.empty]
  repeated_iff := by simp [DirectiveLog.empty]

theorem isSome_lastIndex?_iff (h : log.Represents directives) :
    (log.lastIndex? plugin kind).isSome ↔ (plugin, kind) ∈ directives.map Directive.key := by
  rw [← not_iff_not, Bool.not_eq_true, Option.isSome_eq_false_iff, Option.isNone_iff_eq_none,
    h.unplaced_iff]

theorem nodup_record (h : log.Represents directives) : (log.record d).plugins.Nodup := by
  rw [plugins_record]
  split
  · exact h.nodup
  · rename_i hd
    exact h.nodup.append (List.nodup_singleton _) (List.disjoint_singleton.2 hd)

theorem mem_plugins_record_iff (h : log.Represents directives) :
    plugin ∈ (log.record d).plugins ↔
      plugin ∈ (directives ++ [d]).map Directive.plugin := by
  rw [plugins_record, List.map_append, List.mem_append, ← h.mem_iff]
  split
  · rename_i hd
    simp only [List.map_cons, List.map_nil, List.mem_singleton, iff_self_or]
    rintro rfl
    exact hd
  · simp

theorem inOrder_record (h : log.Represents directives) :
    (log.record d).plugins.Pairwise fun first second =>
      ((directives ++ [d]).map Directive.plugin).idxOf first <
        ((directives ++ [d]).map Directive.plugin).idxOf second := by
  rw [plugins_record, List.map_append, List.map_singleton]
  -- where a plugin was first named is not changed by a later directive
  have hkept : log.plugins.Pairwise fun first second =>
      (directives.map Directive.plugin ++ [d.plugin]).idxOf first <
        (directives.map Directive.plugin ++ [d.plugin]).idxOf second := by
    refine h.inOrder.imp_of_mem fun {first second} hf hs hlt => ?_
    rwa [List.idxOf_append_of_mem ((h.mem_iff first).1 hf),
      List.idxOf_append_of_mem ((h.mem_iff second).1 hs)]
  split
  · exact hkept
  · rename_i hd
    refine List.pairwise_append.2 ⟨hkept, List.pairwise_singleton _ _, ?_⟩
    intro first hf second hs
    obtain rfl := List.mem_singleton.1 hs
    rw [List.idxOf_append_of_mem ((h.mem_iff first).1 hf),
      List.idxOf_append_of_notMem (mt (h.mem_iff _).2 hd), List.idxOf_cons_self]
    exact List.idxOf_lt_length_of_mem ((h.mem_iff first).1 hf)

theorem unplaced_record_iff (h : log.Represents directives) :
    (log.record d).lastIndex? plugin kind = none ↔
      (plugin, kind) ∉ (directives ++ [d]).map Directive.key := by
  rw [lastIndex?_record, List.map_append, List.mem_append, not_or, ← h.unplaced_iff]
  split
  · rename_i hk
    simp [hk]
  · rename_i hk
    simpa [eq_comm] using fun _ => hk

theorem placed_record_iff (h : log.Represents directives) :
    (log.record d).lastIndex? plugin kind = some index ↔
      ∃ earlier e later, directives ++ [d] = earlier ++ e :: later ∧ e.key = (plugin, kind) ∧
        earlier.length = index ∧ (plugin, kind) ∉ later.map Directive.key := by
  have hlength : log.values.length = directives.length := by rw [h.values_eq, List.length_map]
  rw [exists_split_concat_iff, lastIndex?_record, hlength]
  split
  · rename_i hk
    simp [hk]
  · rename_i hk
    rw [h.placed_iff]
    simp [hk, Ne.symm hk]

theorem firstRepeat?_record (h : log.Represents directives) : (log.record d).firstRepeat? =
    log.firstRepeat?.or (if d.key ∈ directives.map Directive.key then some d.key else none) := by
  simp only [DirectiveLog.firstRepeat?_record, h.isSome_lastIndex?_iff]
  rfl

theorem unrepeated_record_iff (h : log.Represents directives) :
    (log.record d).firstRepeat? = none ↔ ((directives ++ [d]).map Directive.key).Nodup := by
  rw [h.firstRepeat?_record, Option.or_eq_none_iff, h.unrepeated_iff, List.map_append,
    List.nodup_append_comm, List.map_singleton, List.singleton_append, List.nodup_cons, and_comm]
  simp

theorem repeated_record_iff (h : log.Represents directives) {key : String × DirectiveKind} :
    (log.record d).firstRepeat? = some key ↔
      ∃ earlier e later, directives ++ [d] = earlier ++ e :: later ∧ e.key = key ∧
        (earlier.map Directive.key).Nodup ∧ e.key ∈ earlier.map Directive.key := by
  rw [exists_split_concat_iff, h.firstRepeat?_record, Option.or_eq_some_iff, h.repeated_iff,
    h.unrepeated_iff, or_comm]
  refine or_congr_left ?_
  split
  · rename_i hd
    simp [hd, and_comm]
  · rename_i hd
    simp [hd]

/-- A log represents one more directive after recording it. -/
protected theorem record (h : log.Represents directives) (d : Directive) :
    (log.record d).Represents (directives ++ [d]) where
  values_eq := by rw [values_record, h.values_eq, List.map_append, List.map_singleton]
  nodup := h.nodup_record
  mem_iff _ := h.mem_plugins_record_iff
  inOrder := h.inOrder_record
  unplaced_iff _ _ := h.unplaced_record_iff
  placed_iff _ _ _ := h.placed_record_iff
  unrepeated_iff := h.unrepeated_record_iff
  repeated_iff _ := h.repeated_record_iff

theorem foldl_record (h : log.Represents directives) (later : List Directive) :
    (later.foldl DirectiveLog.record log).Represents (directives ++ later) := by
  induction later generalizing log directives with
  | nil => simpa using h
  | cons d later ih => simpa using ih (h.record d)

end Represents

theorem represents_ofList (directives : List Directive) :
    (ofList directives).Represents directives :=
  Represents.empty.foldl_record directives

-- the repeated directive leaves its value behind, to which nothing points any more
example : ofList [⟨"go", .out, "a"⟩, ⟨"java", .opt, "x"⟩, ⟨"go", .opt, "y"⟩, ⟨"go", .out, "b"⟩] =
    ⟨["a", "x", "y", "b"], [("go", ⟨some 3, some 2⟩), ("java", ⟨none, some 1⟩)],
      some ("go", .out)⟩ := by
  decide

/-! ## What a log tells -/

namespace Represents

/-- An entry points where a search for its plugin ends. -/
theorem get?_of_mem (h : log.Represents directives) {entry : String × DirectivePlaces}
    (he : entry ∈ log.entries) (kind : DirectiveKind) :
    entry.2.get? kind = log.lastIndex? entry.1 kind := by
  rw [lastIndex?, places_of_mem h.nodup he]

/-- An index finds the value of the last directive of its plugin and kind. -/
theorem exists_of_lastIndex? (h : log.Represents directives)
    (hi : log.lastIndex? plugin kind = some index) :
    ∃ earlier value later, directives = earlier ++ ⟨plugin, kind, value⟩ :: later ∧
      earlier.length = index ∧ (plugin, kind) ∉ later.map Directive.key ∧
      log.value? index = some value := by
  obtain ⟨earlier, ⟨name, held, value⟩, later, rfl, hk, rfl, hn⟩ := (h.placed_iff _ _ _).1 hi
  obtain ⟨rfl, rfl⟩ := Prod.mk.inj hk
  refine ⟨earlier, value, later, rfl, rfl, hn, ?_⟩
  simp [value?, h.values_eq]

/-- An index belongs to one plugin and kind. -/
theorem key_eq_of_lastIndex? (h : log.Represents directives) {other : String}
    {otherKind : DirectiveKind} (hi : log.lastIndex? plugin kind = some index)
    (ho : log.lastIndex? other otherKind = some index) : plugin = other ∧ kind = otherKind := by
  obtain ⟨earlier, value, later, hd, hl, _⟩ := h.exists_of_lastIndex? hi
  obtain ⟨earlier', value', later', hd', hl', _⟩ := h.exists_of_lastIndex? ho
  obtain ⟨_, hsame⟩ := List.append_inj (hd.symm.trans hd') (hl.trans hl'.symm)
  cases hsame
  exact ⟨rfl, rfl⟩

theorem value?_foldl_record (h : log.Represents directives) (later : List Directive)
    (hi : index < directives.length) :
    (later.foldl DirectiveLog.record log).value? index = log.value? index := by
  have hlength : index < (directives.map Directive.value).length := by simpa using hi
  rw [value?, value?, (h.foldl_record later).values_eq, h.values_eq, List.map_append,
    List.getElem?_append_left hlength]

end Represents

/-- What a log of these directives tells of them. -/
structure Tells (log : DirectiveLog) (directives : List Directive) : Prop
    extends log.Represents directives where
  /-- An entry points where a search for its plugin ends. -/
  entry_eq : ∀ entry ∈ log.entries, ∀ kind, entry.2.get? kind = log.lastIndex? entry.1 kind
  /-- An index finds the value of the last directive of its plugin and kind. -/
  held : ∀ plugin kind index, log.lastIndex? plugin kind = some index →
    ∃ earlier value later, directives = earlier ++ ⟨plugin, kind, value⟩ :: later ∧
      earlier.length = index ∧ (plugin, kind) ∉ later.map Directive.key ∧
      log.value? index = some value
  /-- An index belongs to one plugin and kind. -/
  unshared : ∀ plugin kind other otherKind index, log.lastIndex? plugin kind = some index →
    log.lastIndex? other otherKind = some index → plugin = other ∧ kind = otherKind

/-- A log tells of the directives recorded in it, and a value stays at its index whatever is
recorded later. -/
theorem tells_ofList (directives later : List Directive) :
    (ofList directives).Tells directives ∧ ∀ index < directives.length,
      (ofList (directives ++ later)).value? index = (ofList directives).value? index := by
  have h := represents_ofList directives
  refine ⟨⟨h, ?_, ?_, ?_⟩, fun index hi => ?_⟩
  · exact fun entry he => h.get?_of_mem he
  · exact fun plugin kind index hi => h.exists_of_lastIndex? hi
  · exact fun plugin kind other otherKind index hi ho => h.key_eq_of_lastIndex? hi ho
  · rw [ofList, List.foldl_append]
    exact h.value?_foldl_record later hi

/-- Of two plugins that are each given two output locations, the first to be repeated is the one
whose second stands first; and its value is found again behind a later directive. -/
theorem tells_ofList_repeated :
    (ofList [⟨"go", .out, "a"⟩, ⟨"java", .out, "b"⟩, ⟨"java", .out, "c"⟩,
        ⟨"go", .out, "d"⟩]).firstRepeat? = some ("java", .out) ∧
      (ofList [⟨"go", .out, "a"⟩, ⟨"java", .out, "b"⟩, ⟨"java", .out, "c"⟩,
        ⟨"go", .out, "d"⟩]).lastIndex? "java" .out = some 2 ∧
      (ofList ([⟨"go", .out, "a"⟩, ⟨"java", .out, "b"⟩, ⟨"java", .out, "c"⟩, ⟨"go", .out, "d"⟩] ++
        [⟨"java", .opt, "x"⟩])).value? 2 = some "c" := by
  obtain ⟨htells, hkept⟩ := tells_ofList [⟨"go", .out, "a"⟩, ⟨"java", .out, "b"⟩,
    ⟨"java", .out, "c"⟩, ⟨"go", .out, "d"⟩] [⟨"java", .opt, "x"⟩]
  refine ⟨?_, ?_, (hkept 2 (by decide)).trans ?_⟩
  · exact (htells.repeated_iff _).2 ⟨[⟨"go", .out, "a"⟩, ⟨"java", .out, "b"⟩],
      ⟨"java", .out, "c"⟩, [⟨"go", .out, "d"⟩], rfl, rfl, by decide, by decide⟩
  · exact (htells.placed_iff _ _ _).2 ⟨[⟨"go", .out, "a"⟩, ⟨"java", .out, "b"⟩],
      ⟨"java", .out, "c"⟩, [⟨"go", .out, "d"⟩], rfl, rfl, rfl, by decide⟩
  · rw [value?, htells.values_eq]
    rfl

end DirectiveLog

end ProtocInvocation
