import ProtocInvocation.Plugin.Entry

/-!
# The plugin table

The entries of plugins by the plugins' names. The names ascend, so that two tables with the same
entries are equal (`ext_get?`).
-/

namespace ProtocInvocation

/-- Entries by the names of their plugins, which ascend. -/
structure PluginTable where
  entries : List (String × PluginEntry)
  ascending : entries.Pairwise fun a b => a.1 < b.1
  deriving DecidableEq, Repr

namespace PluginTable

variable {entries : List (String × PluginEntry)} {plugin other : String} {new : PluginEntry}

/-- A table with no entries. -/
def empty : PluginTable := ⟨[], .nil⟩

instance : Inhabited PluginTable := ⟨empty⟩

/-- The entry of a plugin. -/
def get? (table : PluginTable) (plugin : String) : Option PluginEntry :=
  table.entries.lookup plugin

/-- The entry of a plugin, which is blank if there is none. -/
def entry (table : PluginTable) (plugin : String) : PluginEntry :=
  (table.get? plugin).getD {}

/-- The fault of the first entry that has options or a path and nowhere to write. -/
def inactionable? (table : PluginTable) : Option Fault :=
  table.entries.findSome? fun (plugin, entry) => entry.inactionable? plugin

/-! ## Insertion -/

/-- Puts an entry where its name belongs, in place of an entry of that name. -/
def insertEntry (plugin : String) (new : PluginEntry) :
    List (String × PluginEntry) → List (String × PluginEntry)
  | [] => [(plugin, new)]
  | e :: later =>
    if plugin < e.1 then (plugin, new) :: e :: later
    else if plugin = e.1 then (plugin, new) :: later
    else e :: insertEntry plugin new later

theorem mem_insertEntry {e : String × PluginEntry} (h : e ∈ insertEntry plugin new entries) :
    e.1 = plugin ∨ e ∈ entries := by
  induction entries with
  | nil => simp_all [insertEntry]
  | cons first later ih =>
      simp only [insertEntry] at h
      split at h
      · exact (List.mem_cons.1 h).imp (by rintro rfl; rfl) id
      split at h
      · exact (List.mem_cons.1 h).imp (by rintro rfl; rfl) (List.mem_cons_of_mem _)
      · rcases List.mem_cons.1 h with rfl | h
        · simp
        · exact (ih h).imp id (List.mem_cons_of_mem _)

theorem lt_of_not_lt_of_ne (hl : ¬plugin < other) (hn : plugin ≠ other) : other < plugin :=
  Decidable.byContradiction fun h =>
    hn (String.le_antisymm (String.not_lt.1 h) (String.not_lt.1 hl))

theorem ascending_insertEntry (h : entries.Pairwise fun a b => a.1 < b.1) :
    (insertEntry plugin new entries).Pairwise fun a b => a.1 < b.1 := by
  induction entries with
  | nil => simp [insertEntry]
  | cons first later ih =>
      obtain ⟨hf, hp⟩ := List.pairwise_cons.1 h
      simp only [insertEntry]
      split
      · rename_i hl
        refine List.pairwise_cons.2 ⟨fun e he => ?_, h⟩
        rcases List.mem_cons.1 he with rfl | he
        · exact hl
        · exact String.lt_trans hl (hf e he)
      split
      · rename_i he
        exact List.pairwise_cons.2 ⟨fun e hm => by rw [he]; exact hf e hm, hp⟩
      · rename_i hl hn
        refine List.pairwise_cons.2 ⟨fun e he => ?_, ih hp⟩
        rcases mem_insertEntry he with he | he
        · rw [he]
          exact lt_of_not_lt_of_ne hl hn
        · exact hf e he

/-- The table with this entry for a plugin. -/
def insert (table : PluginTable) (plugin : String) (new : PluginEntry) : PluginTable :=
  ⟨insertEntry plugin new table.entries, ascending_insertEntry table.ascending⟩

/-! ## What a table holds -/

theorem lookup_cons {e : String × PluginEntry} :
    (e :: entries).lookup plugin = if plugin = e.1 then some e.2 else entries.lookup plugin := by
  obtain ⟨name, held⟩ := e
  by_cases h : plugin = name
  · simp [h]
  · have hb : (plugin == name) = false := by simpa using h
    simp [List.lookup_cons, h, hb]

theorem lookup_insertEntry :
    (insertEntry plugin new entries).lookup other =
      if other = plugin then some new else entries.lookup other := by
  induction entries with
  | nil => simp [insertEntry, lookup_cons]
  | cons e later ih =>
      simp only [insertEntry]
      split
      · simp [lookup_cons]
      split
      · by_cases h : other = plugin <;> simp_all [lookup_cons]
      · rename_i hn
        by_cases he : other = e.1
        · simp [lookup_cons, he, Ne.symm hn]
        · simp [lookup_cons, he, ih]

@[simp] theorem get?_empty : empty.get? plugin = none := rfl

theorem get?_insert {table : PluginTable} :
    (table.insert plugin new).get? other = if other = plugin then some new else table.get? other :=
  lookup_insertEntry

theorem lookup_eq_none_of_lt (h : ∀ e ∈ entries, plugin < e.1) : entries.lookup plugin = none := by
  induction entries with
  | nil => rfl
  | cons e later ih =>
      have hn : plugin ≠ e.1 := fun he => String.lt_irrefl _ (he ▸ h e (by simp))
      simp [lookup_cons, hn, ih fun e he => h e (List.mem_cons_of_mem _ he)]

theorem lookup_cons_self {e : String × PluginEntry} : (e :: entries).lookup e.1 = some e.2 := by
  simp [lookup_cons]

/-- The first name of a list is not below the first name of one that holds the same. -/
theorem not_lt_of_lookup_eq {e f : String × PluginEntry} {es fs : List (String × PluginEntry)}
    (hf : ∀ g ∈ fs, f.1 < g.1) (h : (e :: es).lookup e.1 = (f :: fs).lookup e.1) :
    ¬e.1 < f.1 := by
  intro hl
  have hn : (f :: fs).lookup e.1 = none := lookup_eq_none_of_lt fun g hg => by
    rcases List.mem_cons.1 hg with rfl | hg
    · exact hl
    · exact String.lt_trans hl (hf g hg)
  rw [lookup_cons_self, hn] at h
  simp at h

theorem eq_of_lookup_eq {es fs : List (String × PluginEntry)}
    (he : es.Pairwise fun a b => a.1 < b.1) (hf : fs.Pairwise fun a b => a.1 < b.1)
    (h : ∀ plugin, es.lookup plugin = fs.lookup plugin) : es = fs := by
  induction es generalizing fs with
  | nil =>
      cases fs with
      | nil => rfl
      | cons f fs => simpa [lookup_cons] using h f.1
  | cons e es ih =>
      cases fs with
      | nil => simpa [lookup_cons] using h e.1
      | cons f fs =>
          obtain ⟨he', hes⟩ := List.pairwise_cons.1 he
          obtain ⟨hf', hfs⟩ := List.pairwise_cons.1 hf
          have hk : e.1 = f.1 := Decidable.byContradiction fun hn =>
            not_lt_of_lookup_eq he' (h f.1).symm
              (lt_of_not_lt_of_ne (not_lt_of_lookup_eq hf' (h e.1)) hn)
          have hv : e.2 = f.2 := by simpa [lookup_cons, hk] using h e.1
          have heq : e = f := Prod.ext hk hv
          rw [ih hes hfs fun plugin => ?_, heq]
          by_cases hp : plugin = e.1
          · rw [hp, lookup_eq_none_of_lt he', lookup_eq_none_of_lt (hk ▸ hf')]
          · simpa [lookup_cons, hp, hk ▸ hp] using h plugin

/-- Tables that hold the same are equal. -/
theorem ext_get? {table other : PluginTable} (h : ∀ plugin, table.get? plugin = other.get? plugin) :
    table = other := by
  obtain ⟨es, he⟩ := table
  obtain ⟨fs, hf⟩ := other
  simp only [mk.injEq]
  exact eq_of_lookup_eq he hf h

end PluginTable

end ProtocInvocation
