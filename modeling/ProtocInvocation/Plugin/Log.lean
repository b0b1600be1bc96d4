import ProtocInvocation.Plugin.Directive

/-!
# Logs of directives

The directives of one argument vector are put into a log as they are given. Their values stand one
behind another. Every plugin has an entry, and a directive points its kind there at its value, so
that one given again takes the place of the one before it; the first to be given again is noted.
What one more directive changes in a log is said by `values_record`, `plugins_record`,
`lastIndex?_record` and `firstRepeat?_record`.
-/

namespace ProtocInvocation

/-- The places of one plugin's last directives among the values of a log. -/
structure DirectivePlaces where
  out : Option Nat := none
  opt : Option Nat := none
  deriving DecidableEq, Repr

namespace DirectivePlaces

variable {places : DirectivePlaces} {kind other : DirectiveKind} {index : Nat}

/-- The place of the last directive of a kind. -/
def get? (places : DirectivePlaces) : DirectiveKind → Option Nat
  | .out => places.out
  | .opt => places.opt

/-- Points a kind at this place. -/
def set (places : DirectivePlaces) (index : Nat) : DirectiveKind → DirectivePlaces
  | .out => { places with out := some index }
  | .opt => { places with opt := some index }

@[simp] theorem get?_blank : ({} : DirectivePlaces).get? kind = none := by
  cases kind <;> rfl

theorem get?_set : (places.set index kind).get? other =
    if kind = other then some index else places.get? other := by
  cases kind <;> cases other <;> rfl

end DirectivePlaces

/-- The directives of one argument vector, as far as they are kept. -/
structure DirectiveLog where
  /-- The values of all directives, in the order given. -/
  values : List String
  /-- The places of every plugin, in the order of the plugins' first directives. -/
  entries : List (String × DirectivePlaces)
  /-- The plugin and kind that were the first to be given again. -/
  firstRepeat? : Option (String × DirectiveKind)
  deriving DecidableEq, Repr

namespace DirectiveLog

variable {log : DirectiveLog} {d : Directive} {plugin other : String} {kind : DirectiveKind}
  {entries : List (String × DirectivePlaces)} {entry : String × DirectivePlaces} {index : Nat}

/-! ## Entries -/

/-- Where the entry of a plugin stands. If there is none, it is the place behind all entries. -/
def position (entries : List (String × DirectivePlaces)) (plugin : String) : Nat :=
  entries.findIdx (·.1 = plugin)

/-- The entries with one for this plugin: unless there is one, it is blank and stands last. -/
def withEntry (entries : List (String × DirectivePlaces)) (plugin : String) :
    List (String × DirectivePlaces) :=
  if position entries plugin < entries.length then entries
  else entries ++ [(plugin, ({} : DirectivePlaces))]

/-- The place that the entry of a plugin is pointed at, if it is at any. -/
def slot? (entries : List (String × DirectivePlaces)) (plugin : String) (kind : DirectiveKind) :
    Option Nat :=
  (withEntry entries plugin)[position entries plugin]?.bind (·.2.get? kind)

/-- Points the entry of a plugin at the place of its latest directive of a kind. -/
def point (entries : List (String × DirectivePlaces)) (plugin : String) (kind : DirectiveKind)
    (index : Nat) : List (String × DirectivePlaces) :=
  (withEntry entries plugin).modify (position entries plugin) fun entry =>
    (entry.1, entry.2.set index kind)

/-- The places of a plugin, which are blank if it has no entry. -/
def places (entries : List (String × DirectivePlaces)) (plugin : String) : DirectivePlaces :=
  (entries.find? (·.1 = plugin)).elim {} Prod.snd

theorem position_cons : position (entry :: entries) plugin =
    if entry.1 = plugin then 0 else position entries plugin + 1 := by
  by_cases h : entry.1 = plugin <;> simp [position, List.findIdx_cons, h]

theorem withEntry_cons : withEntry (entry :: entries) plugin =
    if entry.1 = plugin then entry :: entries else entry :: withEntry entries plugin := by
  by_cases h : entry.1 = plugin
  · simp [withEntry, position_cons, h]
  · simp only [withEntry, position_cons, if_neg h, List.length_cons, Nat.add_lt_add_iff_right]
    split <;> rfl

theorem point_cons : point (entry :: entries) plugin kind index =
    if entry.1 = plugin then (entry.1, entry.2.set index kind) :: entries
    else entry :: point entries plugin kind index := by
  rw [point, withEntry_cons, position_cons]
  split <;> rfl

theorem places_cons : places (entry :: entries) plugin =
    if entry.1 = plugin then entry.2 else places entries plugin := by
  by_cases h : entry.1 = plugin <;> simp [places, h]

theorem slot?_eq : slot? entries plugin kind = (places entries plugin).get? kind := by
  induction entries with
  | nil => simp [slot?, withEntry, position, places]
  | cons entry entries ih =>
      rw [slot?, withEntry_cons, position_cons, places_cons]
      split
      · rfl
      · exact ih

theorem places_point : places (point entries plugin kind index) other =
    if plugin = other then (places entries plugin).set index kind else places entries other := by
  induction entries with
  | nil => exact places_cons
  | cons entry entries ih =>
      rw [point_cons, places_cons, places_cons]
      by_cases h : entry.1 = plugin
      · rw [if_pos h, if_pos h, places_cons, h]
        split <;> rfl
      · rw [if_neg h, if_neg h, places_cons, ih]
        by_cases ho : entry.1 = other
        · rw [if_pos ho, if_pos ho, if_neg (ho ▸ Ne.symm h)]
        · rw [if_neg ho, if_neg ho]

theorem map_fst_point : (point entries plugin kind index).map Prod.fst =
    if plugin ∈ entries.map Prod.fst then entries.map Prod.fst
    else entries.map Prod.fst ++ [plugin] := by
  induction entries with
  | nil => rfl
  | cons entry entries ih =>
      rw [point_cons]
      by_cases h : entry.1 = plugin
      · simp [h]
      · rw [if_neg h, List.map_cons, ih]
        by_cases hm : plugin ∈ entries.map Prod.fst <;> simp_all [Ne.symm h]

theorem places_of_mem (hn : (entries.map Prod.fst).Nodup) (h : entry ∈ entries) :
    places entries entry.1 = entry.2 := by
  induction entries with
  | nil => cases h
  | cons first entries ih =>
      obtain ⟨hf, hn⟩ := List.nodup_cons.1 hn
      rw [places_cons]
      rcases List.mem_cons.1 h with rfl | h
      · rw [if_pos rfl]
      · rw [if_neg, ih hn h]
        intro he
        exact hf (he ▸ List.mem_map.2 ⟨entry, h, rfl⟩)

/-! ## Recording -/

/-- A log with nothing in it. -/
def empty : DirectiveLog := ⟨[], [], none⟩

/-- Puts a directive into the log. Its value goes behind the others, and the entry of its plugin is
pointed at it. A directive whose slot is taken is a repeat, which is noted unless one was noted
before. -/
def record (log : DirectiveLog) (d : Directive) : DirectiveLog where
  values := log.values ++ [d.value]
  entries := point log.entries d.plugin d.kind log.values.length
  firstRepeat? :=
    if (slot? log.entries d.plugin d.kind).isSome && log.firstRepeat?.isNone then some d.key
    else log.firstRepeat?

/-- The log of directives given in this order. -/
def ofList (directives : List Directive) : DirectiveLog :=
  directives.foldl record empty

/-- The value at a place. -/
def value? (log : DirectiveLog) (index : Nat) : Option String :=
  log.values[index]?

/-- The plugins in the order of their first directives. -/
def plugins (log : DirectiveLog) : List String :=
  log.entries.map Prod.fst

/-- The place of the last directive of this plugin and kind. -/
def lastIndex? (log : DirectiveLog) (plugin : String) (kind : DirectiveKind) : Option Nat :=
  (places log.entries plugin).get? kind

@[simp] theorem values_record : (log.record d).values = log.values ++ [d.value] := rfl

theorem plugins_record : (log.record d).plugins =
    if d.plugin ∈ log.plugins then log.plugins else log.plugins ++ [d.plugin] :=
  map_fst_point

theorem lastIndex?_record : (log.record d).lastIndex? plugin kind =
    if d.key = (plugin, kind) then some log.values.length else log.lastIndex? plugin kind := by
  simp only [lastIndex?, record, places_point, Directive.key, Prod.mk.injEq]
  by_cases h : d.plugin = plugin
  · rw [if_pos h, DirectivePlaces.get?_set]
    simp [h]
  · simp [h]

theorem firstRepeat?_record : (log.record d).firstRepeat? =
    log.firstRepeat?.or (if (log.lastIndex? d.plugin d.kind).isSome then some d.key else none) := by
  rw [lastIndex?, ← slot?_eq]
  cases h : log.firstRepeat? <;> simp [record, h]

end DirectiveLog

end ProtocInvocation
