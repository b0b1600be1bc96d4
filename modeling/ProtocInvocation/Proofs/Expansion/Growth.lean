import Mathlib.Control.Monad.Basic
import ProtocInvocation.Proofs.Expansion.Outcome

/-!
# What an expansion leaves in place

Contexts only grow: whatever a step ends with, it forgets no path and no plugin, and every part of
an entry that has a value keeps it (`ExpansionContext.Within`). Main statement:
`pairwise_within_of_expandsInTurn`. Of the values given to a part over many expansions in one
context the first one stays, also if some of these end with a fault.
-/

namespace ProtocInvocation

variable {α β : Type} {files : FileSystem} {registry : FlagRegistry} {tokens : List String}

/-! ## Entries and tables -/

/-- What an entry has a value for, the other has the same value for. -/
structure PluginEntry.Within (e f : PluginEntry) : Prop where
  out : e.out ≠ "" → f.out = e.out
  opt : ∀ opt, e.opt = some opt → f.opt = some opt
  path : ∀ path, e.path = some path → f.path = some path

namespace PluginEntry

variable {e f : PluginEntry}

theorem value?_out_eq_some_iff {out : String} :
    e.value? .out = some out ↔ e.out ≠ "" ∧ e.out = out := by
  simp [value?, PluginPart.read]

theorem within_iff :
    e.Within f ↔ ∀ part value, e.value? part = some value → f.value? part = some value := by
  constructor
  · intro h part value hv
    cases part with
    | out =>
        obtain ⟨hne, rfl⟩ := value?_out_eq_some_iff.1 hv
        exact value?_out_eq_some_iff.2 ⟨h.out hne ▸ hne, h.out hne⟩
    | opt => exact h.opt value hv
    | path => exact h.path value hv
  · intro h
    refine ⟨fun hne => ?_, h .opt, h .path⟩
    exact (value?_out_eq_some_iff.1 (h .out e.out (value?_out_eq_some_iff.2 ⟨hne, rfl⟩))).2

end PluginEntry

namespace PluginTable

variable {table between after : PluginTable} {a : Assignment}

/-- A table has every entry of another, within its own. -/
def Within (table after : PluginTable) : Prop :=
  ∀ plugin e, table.get? plugin = some e → ∃ f, after.get? plugin = some f ∧ e.Within f

theorem Within.refl (table : PluginTable) : table.Within table :=
  fun _ e he => ⟨e, he, PluginEntry.within_iff.2 fun _ _ h => h⟩

theorem Within.trans (h : table.Within between) (h' : between.Within after) :
    table.Within after := by
  intro plugin e he
  obtain ⟨f, hf, hef⟩ := h plugin e he
  obtain ⟨g, hg, hfg⟩ := h' plugin f hf
  refine ⟨g, hg, PluginEntry.within_iff.2 fun part value hv => ?_⟩
  exact PluginEntry.within_iff.1 hfg part value (PluginEntry.within_iff.1 hef part value hv)

/-- An assignment changes no part that has a value. -/
theorem within_of_assign (h : table.assign a = .ok after) : table.Within after := by
  intro plugin e he
  obtain ⟨f, hf⟩ := Option.isSome_iff_exists.1
    ((isSome_get?_of_assign h).2 (.inr (Option.isSome_of_eq_some he)))
  refine ⟨f, hf, PluginEntry.within_iff.2 fun part value hv => ?_⟩
  rw [← value?_of_get? he] at hv
  rw [← value?_of_get? hf, value?_of_assign h]
  split
  · rename_i hs
    rw [← hs.1, ← hs.2, (assign_eq_ok_iff.1 h).1] at hv
    cases hv
  · exact hv

theorem within_record (assignments : List (Except Fault Assignment)) :
    table.Within (table.record assignments).2 := by
  induction assignments generalizing table with
  | nil => exact .refl table
  | cons first later ih =>
      cases first with
      | error fault => exact .refl table
      | ok a =>
          simp only [record]
          cases h : table.assign a with
          | error fault => exact .refl table
          | ok between => exact (within_of_assign h).trans ih

end PluginTable

/-! ## Contexts -/

/-- A context has all that another holds: the paths that were visited, and the entries, within its
own. -/
structure ExpansionContext.Within (before after : ExpansionContext) : Prop where
  visited : before.visited ⊆ after.visited
  plugins : before.plugins.Within after.plugins

namespace ExpansionContext.Within

variable {before between after : ExpansionContext}

theorem refl (context : ExpansionContext) : context.Within context :=
  ⟨fun _ h => h, .refl _⟩

theorem trans (h : before.Within between) (h' : between.Within after) : before.Within after :=
  ⟨fun _ hp => h'.visited (h.visited hp), h.plugins.trans h'.plugins⟩

end ExpansionContext.Within

/-! ## Steps -/

namespace Expanding

/-- Whatever the step ends with, the context has grown. -/
def Grows (step : Expanding α) : Prop :=
  ∀ before result after, step.run.run before = some (result, after) → before.Within after

namespace Grows

theorem unending : Grows (Expanding.unending : Expanding α) := by
  intro before result after h
  cases h

theorem ofExcept (result : Except Fault α) : Grows (Expanding.ofExcept result) := by
  intro before result after h
  cases h
  exact .refl before

theorem pure (a : α) : Grows (Pure.pure a : Expanding α) :=
  ofExcept (.ok a)

theorem record (assignments : List (Except Fault Assignment)) :
    Grows (Expanding.record assignments) := by
  intro before result after h
  cases h
  exact ⟨fun _ hp => hp, PluginTable.within_record assignments⟩

theorem visit (path : String) : Grows (Expanding.visit path) := by
  intro before result after h
  rw [run_visit] at h
  split at h
  · cases h
    exact .refl before
  · cases h
    exact ⟨List.subset_append_left _ _, .refl _⟩

theorem bind {step : Expanding α} {next : α → Expanding β} (h : Grows step)
    (hn : ∀ a, Grows (next a)) : Grows (step >>= next) := by
  intro before result after hr
  rcases run_bind_eq_some_iff.1 hr with ⟨fault, between, hs, he⟩ | ⟨a, between, hs, hr⟩
  · cases he
    exact h _ _ _ hs
  · exact (h _ _ _ hs).trans (hn a _ _ _ hr)

end Grows

end Expanding

theorem Expands.within {before after : ExpansionContext} {result : Except Fault Expansion}
    (h : Expands files registry tokens before (result, after)) : before.Within after := by
  obtain ⟨depth, h⟩ := h
  have hgrows : Expanding.Grows (expandWithin files registry depth tokens) :=
    expandWithin_induction (motive := Expanding.Grows) .unending .pure .bind
      (fun _ => .ofExcept _) (fun own => .record own.assignments) (.ofExcept _) .visit
      (fun _ => .ofExcept _) depth tokens
  exact hgrows _ _ _ h

/-! ## Expansions in one context -/

/-- The vectors are expanded one after another in one context, whatever each of them ends with. -/
inductive ExpandsInTurn (files : FileSystem) (registry : FlagRegistry) :
    ExpansionContext → List (List String) → List (Except Fault Expansion × ExpansionContext) → Prop
  | done {before : ExpansionContext} : ExpandsInTurn files registry before [] []
  | next {before after : ExpansionContext} {tokens : List String} {vectors : List (List String)}
      {result : Except Fault Expansion}
      {outcomes : List (Except Fault Expansion × ExpansionContext)} :
      Expands files registry tokens before (result, after) →
      ExpandsInTurn files registry after vectors outcomes →
      ExpandsInTurn files registry before (tokens :: vectors) ((result, after) :: outcomes)

variable {before : ExpansionContext} {vectors : List (List String)}
  {outcomes : List (Except Fault Expansion × ExpansionContext)}

theorem ExpandsInTurn.within (h : ExpandsInTurn files registry before vectors outcomes) :
    ∀ after ∈ outcomes.map Prod.snd, before.Within after := by
  induction h with
  | done => exact nofun
  | next h _ ih =>
      exact List.forall_mem_cons.2 ⟨h.within, fun after hm => h.within.trans (ih after hm)⟩

/-- Of expansions in one context, whether they end well or with a fault, each leaves in place what
the context held before it: no later context has lost a path or a plugin, and the location, options
and path that an entry had stay as they were. -/
theorem pairwise_within_of_expandsInTurn
    (h : ExpandsInTurn files registry before vectors outcomes) :
    (before :: outcomes.map Prod.snd).Pairwise ExpansionContext.Within := by
  induction h with
  | done => exact List.pairwise_singleton _ _
  | next h hl ih =>
      refine List.pairwise_cons.2 ⟨?_, ih⟩
      exact ExpandsInTurn.within (.next h hl)

/-- A file that refers to itself ends the first expansion, and what it gave before stays. -/
theorem pairwise_within_of_expandsInTurn_refused :
    ExpandsInTurn (FileStore.ofAnswers [("f", .ok "--ts_out=dist\n@f")]).toFileSystem .builtin
        default [["--go_opt=a", "@f"], ["--go_out=gen", "a.proto"]]
        [(.error (.recursiveReference "f"), ⟨["f"], ⟨[("go", ⟨"", some "a", none⟩),
            ("ts", ⟨"dist", none, none⟩)], by decide⟩⟩),
          (.ok ⟨{}, ["a.proto"]⟩, ⟨["f"], ⟨[("go", ⟨"gen", some "a", none⟩),
            ("ts", ⟨"dist", none, none⟩)], by decide⟩⟩)] ∧
      ExpansionContext.Within
        ⟨["f"], ⟨[("go", ⟨"", some "a", none⟩), ("ts", ⟨"dist", none, none⟩)], by decide⟩⟩
        ⟨["f"], ⟨[("go", ⟨"gen", some "a", none⟩), ("ts", ⟨"dist", none, none⟩)],
          by decide⟩⟩ := by
  have h : ExpandsInTurn (FileStore.ofAnswers [("f", .ok "--ts_out=dist\n@f")]).toFileSystem
      .builtin default [["--go_opt=a", "@f"], ["--go_out=gen", "a.proto"]]
      [(.error (.recursiveReference "f"), ⟨["f"], ⟨[("go", ⟨"", some "a", none⟩),
          ("ts", ⟨"dist", none, none⟩)], by decide⟩⟩),
        (.ok ⟨{}, ["a.proto"]⟩, ⟨["f"], ⟨[("go", ⟨"gen", some "a", none⟩),
          ("ts", ⟨"dist", none, none⟩)], by decide⟩⟩)] :=
    .next (expands_iff.2 (by decide +kernel)) (.next (expands_iff.2 (by decide +kernel)) .done)
  have hp := (List.pairwise_cons.1 (pairwise_within_of_expandsInTurn h)).2
  exact ⟨h, (List.pairwise_cons.1 hp).1 _ List.mem_cons_self⟩

end ProtocInvocation
