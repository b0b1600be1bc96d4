import Mathlib.Control.Monad.Basic
import Mathlib.Data.Finset.Dedup
import Mathlib.Data.Set.Card
import Mathlib.Data.Set.Finite.Lattice
import ProtocInvocation.Proofs.Expansion.Outcome

/-!
# Which files an expansion opens

`traceWithin` is `expandWithin` with a list of the paths that it opens. The list never changes what
happens, and it is what comes to be visited (`opens_iff`): each path is opened once, right after it
was noted. Main statement: `opens_of_finite`. Only what stands in the vector or in one of the texts
can come up, however many paths name one file.
-/

namespace ProtocInvocation

variable {α β : Type} {files : FileSystem} {registry : FlagRegistry} {tokens paths : List String}
  {before between after : ExpansionContext}

/-! ## Tracing -/

/-- A step of an expansion that also lists the paths it opens, in order. -/
abbrev Tracing := ExceptT Fault (StateT ExpansionContext (StateT (List String) Option))

namespace Tracing

/-- A step that opens nothing. -/
def ofStep (step : Expanding α) : Tracing α :=
  ExceptT.mk fun context opened => (step.run.run context).map (·, opened)

/-- Opens the file at `path` for its arguments. -/
def openFile (files : FileSystem) (path : String) : Tracing (List String) :=
  ExceptT.mk fun context opened =>
    some ((readArgumentFile files path, context), opened ++ [path])

/-- What a step ends with, and all that has been opened by then. -/
def trace (step : Tracing α) (context : ExpansionContext) (opened : List String) :
    Option ((Except Fault α × ExpansionContext) × List String) :=
  (step.run.run context).run opened

end Tracing

/-- What a positional argument gives, as in `expandPositional`. -/
def tracePositional (files : FileSystem) (nested : List String → Tracing Expansion)
    (argument : String) : Tracing Expansion :=
  if argument = "" then .ofStep (.ofExcept (.error .emptyArgument))
  else
    match reference? argument with
    | none => pure { filePaths := [argument] }
    | some path => do
      Tracing.ofStep (Expanding.visit path)
      nested (← Tracing.openFile files path)

/-- Expands a vector of tokens, as `expandWithin` does. -/
def traceWithin (files : FileSystem) (registry : FlagRegistry) :
    (depth : Nat) → List String → Tracing Expansion
  | 0, _ => .ofStep .unending
  | depth + 1, tokens => do
    let own ← Tracing.ofStep (.ofExcept (OwnArguments.read registry tokens))
    Tracing.ofStep (.record own.assignments)
    let traceOne := tracePositional files (traceWithin files registry depth)
    own.positionals.foldlM (fun e argument => (e ++ ·) <$> traceOne argument)
      { settings := own.settings }

/-! ## What comes to be visited -/

/-- From `before` to `after` the references `paths` were noted, all of them new. -/
structure ExpansionContext.Visits (before : ExpansionContext) (paths : List String)
    (after : ExpansionContext) : Prop where
  notMem_visited : ∀ path ∈ paths, path ∉ before.visited
  nodup : paths.Nodup
  visited_eq : after.visited = before.visited ++ paths

namespace ExpansionContext.Visits

variable {later : List String}

theorem none (h : after.visited = before.visited) : before.Visits [] after :=
  ⟨by simp, .nil, by simpa using h⟩

theorem append (h : before.Visits paths between) (hl : between.Visits later after) :
    before.Visits (paths ++ later) after := by
  refine ⟨fun path hm hb => ?_, List.nodup_append.2 ⟨h.nodup, hl.nodup, ?_⟩, ?_⟩
  · rcases List.mem_append.1 hm with hm | hm
    · exact h.notMem_visited path hm hb
    · exact hl.notMem_visited path hm (h.visited_eq ▸ List.mem_append_left _ hb)
  · rintro path hm _ hm' rfl
    exact hl.notMem_visited path hm' (h.visited_eq ▸ List.mem_append_right _ hm)
  · rw [hl.visited_eq, h.visited_eq, List.append_assoc]

end ExpansionContext.Visits

namespace Tracing

variable {allowed : Set String}

@[simp] theorem trace_ofStep {step : Expanding α} {opened : List String} :
    (ofStep step).trace before opened = (step.run.run before).map (·, opened) := rfl

@[simp] theorem trace_openFile {path : String} {opened : List String} :
    (openFile files path).trace before opened =
      some ((readArgumentFile files path, before), opened ++ [path]) := rfl

theorem trace_bind {step : Tracing α} {next : α → Tracing β} {opened : List String} :
    (step >>= next).trace before opened =
      match step.trace before opened with
      | none => none
      | some ((.error fault, between), opened) => some ((.error fault, between), opened)
      | some ((.ok a, between), opened) => (next a).trace between opened := by
  simp only [trace, ExceptT.run_bind, StateT.run_bind]
  rcases (step.run.run before).run opened with _ | ⟨⟨_ | a, between⟩, opened⟩
  · rfl
  · rfl
  · rfl

/-- From `before` on, with `opened` open by then, a traced step ends as the plain one does, and has
opened what came to be visited, all of it `allowed`. -/
def Agrees (allowed : Set String) (before : ExpansionContext) (opened : List String)
    (plain : Option (Except Fault α × ExpansionContext))
    (traced : Option ((Except Fault α × ExpansionContext) × List String)) : Prop :=
  match plain with
  | none => traced = none
  | some (result, after) => ∃ paths, before.Visits paths after ∧ (∀ path ∈ paths, path ∈ allowed) ∧
      traced = some ((result, after), opened ++ paths)

theorem Agrees.of_visits {plain : Option (Except Fault α × ExpansionContext)}
    {traced : Option ((Except Fault α × ExpansionContext) × List String)} {opened : List String}
    (hv : before.Visits paths between) (ha : ∀ path ∈ paths, path ∈ allowed)
    (h : Agrees allowed between (opened ++ paths) plain traced) :
    Agrees allowed before opened plain traced := by
  rcases plain with _ | ⟨result, after⟩
  · exact h
  · obtain ⟨later, hv', ha', ht⟩ := h
    refine ⟨paths ++ later, hv.append hv', fun path hm => ?_, ?_⟩
    · exact (List.mem_append.1 hm).elim (ha path) (ha' path)
    · rw [ht, List.append_assoc]

/-- The traced step agrees with the plain one from every context on. -/
def Follows (allowed : Set String) (step : Expanding α) (traced : Tracing α) : Prop :=
  ∀ before opened, Agrees allowed before opened (step.run.run before) (traced.trace before opened)

namespace Follows

theorem ofStep {step : Expanding α}
    (h : ∀ before result after, step.run.run before = some (result, after) →
      after.visited = before.visited) : Follows allowed step (.ofStep step) := by
  intro before opened
  rw [trace_ofStep]
  cases hs : step.run.run before with
  | none => rfl
  | some outcome =>
      obtain ⟨result, after⟩ := outcome
      exact ⟨[], .none (h before result after hs), by simp, by simp⟩

theorem ofExcept (result : Except Fault α) :
    Follows allowed (Expanding.ofExcept result) (.ofStep (.ofExcept result)) := by
  refine ofStep fun before result after h => ?_
  cases h
  rfl

theorem pure (a : α) : Follows allowed (Pure.pure a) (Pure.pure a) :=
  ofExcept (.ok a)

theorem bind {step : Expanding α} {traced : Tracing α} {next : α → Expanding β}
    {nextTraced : α → Tracing β} (h : Follows allowed step traced)
    (hn : ∀ a, Follows allowed (next a) (nextTraced a)) :
    Follows allowed (step >>= next) (traced >>= nextTraced) := by
  intro before opened
  have hstep := h before opened
  rw [trace_bind, ExceptT.run_bind, StateT.run_bind]
  cases hs : step.run.run before with
  | none =>
      rw [hs] at hstep
      rw [show traced.trace before opened = none from hstep]
      rfl
  | some outcome =>
      obtain ⟨result, between⟩ := outcome
      rw [hs] at hstep
      obtain ⟨paths, hv, ha, ht⟩ := hstep
      rw [ht]
      cases result with
      | error fault => exact ⟨paths, hv, ha, rfl⟩
      | ok a => exact .of_visits hv ha (hn a between (opened ++ paths))

theorem ofExcept_bind {result : Except Fault α} {next : α → Expanding β}
    {nextTraced : α → Tracing β}
    (hn : ∀ a, result = .ok a → Follows allowed (next a) (nextTraced a)) :
    Follows allowed (Expanding.ofExcept result >>= next)
      (Tracing.ofStep (.ofExcept result) >>= nextTraced) := by
  cases result with
  | error fault => exact ofExcept (.error fault)
  | ok a => exact hn a rfl

theorem map {step : Expanding α} {traced : Tracing α} {f : α → β}
    (h : Follows allowed step traced) : Follows allowed (f <$> step) (f <$> traced) := by
  rw [map_eq_pure_bind, map_eq_pure_bind]
  exact h.bind fun a => pure (f a)

theorem foldlM {step : β → α → Expanding β} {traced : β → α → Tracing β} {items : List α}
    (h : ∀ a ∈ items, ∀ b, Follows allowed (step b a) (traced b a)) (b : β) :
    Follows allowed (items.foldlM step b) (items.foldlM traced b) := by
  induction items generalizing b with
  | nil => exact pure b
  | cons a items ih =>
      rw [List.foldlM_cons, List.foldlM_cons]
      exact (h a (by simp) b).bind (ih fun a ha => h a (List.mem_cons_of_mem _ ha))

/-- A file is opened right after its path was noted, and only then. -/
theorem visit_bind {path : String} {next : List String → Expanding α}
    {nextTraced : List String → Tracing α} (hp : path ∈ allowed)
    (hn : ∀ lines, readArgumentFile files path = .ok lines →
      Follows allowed (next lines) (nextTraced lines)) :
    Follows allowed
      (Expanding.visit path >>= fun _ => Expanding.ofExcept (readArgumentFile files path) >>= next)
      (Tracing.ofStep (Expanding.visit path) >>= fun _ => openFile files path >>= nextTraced) := by
  intro before opened
  rw [trace_bind, trace_ofStep, ExceptT.run_bind, StateT.run_bind, Expanding.run_visit]
  by_cases hv : path ∈ before.visited
  · rw [if_pos hv]
    exact ⟨[], .none rfl, by simp, by simp⟩
  · rw [if_neg hv]
    have hvisit : before.Visits [path] { before with visited := before.visited ++ [path] } :=
      ⟨by simpa using hv, List.nodup_singleton path, rfl⟩
    refine Agrees.of_visits hvisit (by simpa using hp) ?_
    simp only [Option.map_some, trace_bind, trace_openFile]
    cases hr : readArgumentFile files path with
    | error fault => exact ⟨[], .none rfl, by simp, by simp⟩
    | ok lines => exact hn lines hr _ _

end Follows

end Tracing

/-! ## Traced expansions -/

open Tracing in
theorem follows_tracePositional {allowed : Set String} {nested : List String → Expanding Expansion}
    {traced : List String → Tracing Expansion} {argument : String}
    (hr : ∀ path, reference? argument = some path → path ∈ allowed)
    (hn : ∀ path text, files.read path = .ok text →
      Follows allowed (nested (argumentLines text)) (traced (argumentLines text))) :
    Follows allowed (expandPositional files nested argument)
      (tracePositional files traced argument) := by
  simp only [expandPositional, tracePositional]
  by_cases ha : argument = ""
  · rw [if_pos ha, if_pos ha]
    exact .ofExcept _
  rw [if_neg ha, if_neg ha]
  cases hp : reference? argument with
  | none => exact .pure _
  | some path =>
      refine .visit_bind (hr path hp) fun lines hl => ?_
      cases h : files.read path with
      | error cause =>
          rw [readArgumentFile, h] at hl
          cases hl
      | ok text =>
          rw [readArgumentFile, h] at hl
          cases hl
          exact hn path text h

open Tracing in
theorem follows_traceWithin {allowed : Set String}
    (hf : ∀ path text, files.read path = .ok text →
      ∀ next ∈ mentioned (argumentLines text), next ∈ allowed)
    {depth : Nat} (ht : ∀ path ∈ mentioned tokens, path ∈ allowed) :
    Follows allowed (expandWithin files registry depth tokens)
      (traceWithin files registry depth tokens) := by
  induction depth generalizing tokens with
  | zero => exact .ofStep fun before result after h => by cases h
  | succ depth ih =>
      refine .ofExcept_bind fun own ho => .bind (.ofStep ?_) fun _ => ?_
      · intro before result after h
        cases h
        rfl
      refine .foldlM (fun argument ha e => .map ?_) _
      -- the tokens of a nested vector are lines of a text
      refine follows_tracePositional (fun path hp => ht path ?_) fun path text hr =>
        ih (hf path text hr)
      exact List.mem_filterMap.2 ⟨argument, OwnArguments.positionals_subset ho ha, hp⟩

/-! ## What is opened -/

/-- The expansion of `tokens` from `before` on ends with this outcome and has opened these paths, in
order. -/
def Opens (files : FileSystem) (registry : FlagRegistry) (tokens : List String)
    (before : ExpansionContext) (outcome : Except Fault Expansion × ExpansionContext)
    (opened : List String) : Prop :=
  ∃ depth, (traceWithin files registry depth tokens).trace before [] = some (outcome, opened)

/-- A token refers to `path`, or a line of some text does. -/
def Mentions (files : FileSystem) (tokens : List String) (path : String) : Prop :=
  path ∈ mentioned tokens ∨
    ∃ there text, files.read there = .ok text ∧ path ∈ mentioned (argumentLines text)

theorem agrees_traceWithin (files : FileSystem) (registry : FlagRegistry) (tokens : List String)
    (before : ExpansionContext) (depth : Nat) :
    Tracing.Agrees {path | Mentions files tokens path} before []
      ((expandWithin files registry depth tokens).run.run before)
      ((traceWithin files registry depth tokens).trace before []) :=
  follows_traceWithin (fun there text hr _ hm => .inr ⟨there, text, hr, hm⟩) (fun _ hm => .inl hm)
    before []

/-- What comes to be visited is new, and was mentioned. -/
theorem Expands.exists_visits {result : Except Fault Expansion}
    (h : Expands files registry tokens before (result, after)) :
    ∃ paths, before.Visits paths after ∧ ∀ path ∈ paths, Mentions files tokens path := by
  obtain ⟨depth, h⟩ := h
  have ha := agrees_traceWithin files registry tokens before depth
  rw [h] at ha
  obtain ⟨paths, hv, hm, _⟩ := ha
  exact ⟨paths, hv, hm⟩

/-- An expansion opens what comes to be visited. -/
theorem opens_iff {result : Except Fault Expansion} {opened : List String} :
    Opens files registry tokens before (result, after) opened ↔
      Expands files registry tokens before (result, after) ∧
        after.visited = before.visited ++ opened := by
  constructor
  · rintro ⟨depth, h⟩
    have ha := agrees_traceWithin files registry tokens before depth
    cases hs : (expandWithin files registry depth tokens).run.run before with
    | none =>
        rw [hs] at ha
        rw [show _ = none from ha] at h
        cases h
    | some outcome =>
        obtain ⟨result', after'⟩ := outcome
        rw [hs] at ha
        obtain ⟨paths, hv, _, ht⟩ := ha
        rw [ht] at h
        cases h
        exact ⟨⟨depth, hs⟩, hv.visited_eq⟩
  · rintro ⟨⟨depth, h⟩, hv⟩
    have ha := agrees_traceWithin files registry tokens before depth
    rw [h] at ha
    obtain ⟨paths, hv', _, ht⟩ := ha
    obtain rfl : paths = opened := List.append_cancel_left (hv'.visited_eq.symm.trans hv)
    exact ⟨depth, ht⟩

/-! ## File systems with finitely many texts -/

/-- The paths that may come to be visited. -/
def newMentions (files : FileSystem) (tokens : List String) (before : ExpansionContext) :
    Set String :=
  {path | Mentions files tokens path ∧ path ∉ before.visited}

theorem finite_mentions (h : {text | ∃ path, files.read path = .ok text}.Finite)
    (tokens : List String) : {path | Mentions files tokens path}.Finite := by
  have htokens : {path | path ∈ mentioned tokens}.Finite := List.finite_toSet _
  have htexts : (⋃ text ∈ {text | ∃ path, files.read path = .ok text},
      {path | path ∈ mentioned (argumentLines text)}).Finite :=
    h.biUnion fun text _ => List.finite_toSet _
  refine (htokens.union htexts).subset ?_
  rintro path (hm | ⟨there, text, hr, hm⟩)
  · exact .inl hm
  · exact .inr (Set.mem_biUnion ⟨there, hr⟩ hm)

theorem length_le_ncard {items : List α} {s : Set α} (hn : items.Nodup) (hs : s.Finite)
    (hm : ∀ a ∈ items, a ∈ s) : items.length ≤ s.ncard := by
  classical
  calc items.length
    _ = items.toFinset.card := (List.toFinset_card_of_nodup hn).symm
    _ = (items.toFinset : Set α).ncard := (Set.ncard_coe_finset _).symm
    _ ≤ s.ncard := Set.ncard_le_ncard (fun a ha => hm a (List.mem_toFinset.1 ha)) hs

/-- References go no deeper than there are new paths. -/
theorem exists_run_of_finite (h : {text | ∃ path, files.read path = .ok text}.Finite)
    (registry : FlagRegistry) (tokens : List String) (before : ExpansionContext) :
    ∃ outcome, (expandWithin files registry ((newMentions files tokens before).ncard + 1)
      tokens).run.run before = some outcome := by
  have hfinite := finite_mentions h tokens
  let paths := hfinite.toFinset.toList
  have hpaths {path : String} : path ∈ paths ↔ Mentions files tokens path := by simp [paths]
  have ends {depth : Nat} : Expanding.EndsWithin paths depth
      (expandWithin files registry depth tokens) :=
    endsWithin_expandWithin (fun there text hr _ hm => hpaths.2 (.inr ⟨there, text, hr, hm⟩))
      fun _ hm => hpaths.2 (.inl hm)
  have hnew : unvisited paths before ≤ (newMentions files tokens before).ncard := by
    rw [unvisited, List.countP_eq_length_filter]
    refine length_le_ncard ((Finset.nodup_toList _).filter _) (hfinite.subset fun _ hp => hp.1) ?_
    intro path hp
    obtain ⟨hm, hv⟩ := List.mem_filter.1 hp
    exact ⟨hpaths.1 hm, by simpa using hv⟩
  obtain ⟨result, after, he, _⟩ := ends before (Nat.lt_succ_of_le hnew)
  exact ⟨(result, after), he⟩

/-- In a file system with finitely many texts every expansion ends, under however many paths the
texts are found. References go no deeper than the number of paths that were not visited before and
that a token or a line of some text refers to, and no more files are opened than that. -/
theorem opens_of_finite (h : {text | ∃ path, files.read path = .ok text}.Finite) :
    (newMentions files tokens before).Finite ∧
      ∃ outcome opened,
        (expandWithin files registry ((newMentions files tokens before).ncard + 1) tokens).run.run
          before = some outcome ∧
        Opens files registry tokens before outcome opened ∧
        opened.length ≤ (newMentions files tokens before).ncard := by
  have hfinite : (newMentions files tokens before).Finite :=
    (finite_mentions h tokens).subset fun path hp => hp.1
  obtain ⟨⟨result, after⟩, hr⟩ := exists_run_of_finite h registry tokens before
  have he : Expands files registry tokens before (result, after) := ⟨_, hr⟩
  obtain ⟨opened, hv, hm⟩ := he.exists_visits
  refine ⟨hfinite, (result, after), opened, hr, opens_iff.2 ⟨he, hv.visited_eq⟩, ?_⟩
  exact length_le_ncard hv.nodup hfinite fun path hp => ⟨hm path hp, hv.notMem_visited path hp⟩

/-- All paths name one file, which refers to itself by two other paths. -/
theorem opens_of_finite_aliases :
    {text | ∃ path, (⟨fun _ => .ok "@./f\n@f"⟩ : FileSystem).read path = .ok text}.Finite ∧
      Opens ⟨fun _ => .ok "@./f\n@f"⟩ .builtin ["@d/../f"] default
        (.error (.recursiveReference "./f"), ⟨["d/../f", "./f"], default⟩) ["d/../f", "./f"] ∧
      ["d/../f", "./f"].length ≤
        (newMentions ⟨fun _ => .ok "@./f\n@f"⟩ ["@d/../f"] default).ncard := by
  have hfinite :
      {text | ∃ path, (⟨fun _ => .ok "@./f\n@f"⟩ : FileSystem).read path = .ok text}.Finite :=
    (Set.finite_singleton "@./f\n@f").subset fun text ⟨_, hr⟩ => (Except.ok.inj hr).symm
  have hrun : Expands ⟨fun _ => .ok "@./f\n@f"⟩ .builtin ["@d/../f"] default
      (.error (.recursiveReference "./f"), ⟨["d/../f", "./f"], default⟩) :=
    ⟨4, by decide +kernel⟩
  obtain ⟨_, outcome, opened, hr, ho, hl⟩ := opens_of_finite hfinite
  obtain rfl := hrun.unique ⟨_, hr⟩
  obtain rfl : ["d/../f", "./f"] = opened := (opens_iff.1 ho).2
  exact ⟨hfinite, ho, hl⟩

end ProtocInvocation
