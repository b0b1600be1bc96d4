import ProtocInvocation.Expansion.Basic

/-!
# How deep references go

A reference is followed only if its path is new, and every path that can come up stands in the
vector or in one of the texts. So in a file store expansion ends, at a depth that is known
beforehand. Main statement: `isSome_expandWithin`, on which the total function `expand` rests.
-/

namespace ProtocInvocation

variable {α β : Type} {files : FileSystem} {registry : FlagRegistry} {tokens paths : List String}
  {path text : String} {k : Nat}

/-! ## Paths that can come up -/

/-- The paths that tokens would refer to if they were positional. -/
def mentioned (tokens : List String) : List String :=
  tokens.filterMap reference?

/-- How many of `paths` were not referenced before. -/
def unvisited (paths : List String) (context : ExpansionContext) : Nat :=
  paths.countP (· ∉ context.visited)

theorem unvisited_le {before after : ExpansionContext} (h : before.visited ⊆ after.visited) :
    unvisited paths after ≤ unvisited paths before := by
  apply List.countP_mono_left
  intro path _ hp
  simp only [decide_eq_true_eq] at hp ⊢
  exact fun hb => hp (h hb)

theorem countP_lt_countP {p q : String → Bool} (hm : path ∈ paths) (hp : p path = false)
    (hq : q path) (h : ∀ x, p x → q x) : paths.countP p < paths.countP q := by
  induction paths with
  | nil => simp at hm
  | cons x rest ih =>
      rcases List.mem_cons.1 hm with rfl | hm
      · have hle : rest.countP p ≤ rest.countP q := List.countP_mono_left fun x _ => h x
        simp only [List.countP_cons, hp, hq, Bool.false_eq_true, if_false, if_true]
        omega
      · have hlt := ih hm
        by_cases hx : p x = true
        · simpa [List.countP_cons, hx, h x hx] using hlt
        · simp only [List.countP_cons, hx, Bool.false_eq_true, if_false]
          omega

/-- A new path is one path less. -/
theorem unvisited_lt {before after : ExpansionContext} (hm : path ∈ paths)
    (hn : path ∉ before.visited) (h : after.visited = before.visited ++ [path]) :
    unvisited paths after < unvisited paths before :=
  countP_lt_countP hm (by simp [h]) (by simpa using hn) (by simp_all)

/-! ## Steps that end -/

namespace Expanding

/-- A step ends whenever fewer than `k` of the paths are new, and forgets no path. -/
def EndsWithin (paths : List String) (k : Nat) (step : Expanding α) : Prop :=
  ∀ context, unvisited paths context < k →
    ∃ result after, step.run.run context = some (result, after) ∧ context.visited ⊆ after.visited

namespace EndsWithin

theorem ofExcept (result : Except Fault α) : EndsWithin paths k (Expanding.ofExcept result) :=
  fun context _ => ⟨result, context, rfl, fun _ h => h⟩

theorem pure (a : α) : EndsWithin paths k (Pure.pure a : Expanding α) :=
  fun context _ => ⟨.ok a, context, rfl, fun _ h => h⟩

theorem record (assignments : List (Except Fault Assignment)) :
    EndsWithin paths k (Expanding.record assignments) :=
  fun context _ => ⟨(context.plugins.record assignments).1,
    { context with plugins := (context.plugins.record assignments).2 }, rfl, fun _ h => h⟩

theorem bind {step : Expanding α} {next : α → Expanding β} (h : EndsWithin paths k step)
    (hn : ∀ a, EndsWithin paths k (next a)) : EndsWithin paths k (step >>= next) := by
  intro context hk
  obtain ⟨result, after, he, hv⟩ := h context hk
  cases result with
  | error fault => exact ⟨.error fault, after, by simp [ExceptT.run_bind, he], hv⟩
  | ok a =>
      obtain ⟨result, last, he', hv'⟩ := hn a after (Nat.lt_of_le_of_lt (unvisited_le hv) hk)
      exact ⟨result, last, by simp [ExceptT.run_bind, he, he'], fun _ hp => hv' (hv hp)⟩

theorem foldlM {step : β → α → Expanding β} {items : List α}
    (h : ∀ a ∈ items, ∀ b, EndsWithin paths k (step b a)) (b : β) :
    EndsWithin paths k (items.foldlM step b) := by
  induction items generalizing b with
  | nil => exact pure b
  | cons a items ih =>
      rw [List.foldlM_cons]
      exact (h a (by simp) b).bind (ih fun a ha => h a (List.mem_cons_of_mem _ ha))

/-- After a visit there is one path less. -/
theorem visit_bind {next : Expanding α} (hm : path ∈ paths) (hn : EndsWithin paths k next) :
    EndsWithin paths (k + 1) (Expanding.visit path >>= fun _ => next) := by
  intro context hk
  by_cases hv : path ∈ context.visited
  · exact ⟨.error (.recursiveReference path), context, by simp [ExceptT.run_bind, hv], fun _ h => h⟩
  · have hlt : unvisited paths { context with visited := context.visited ++ [path] } <
        unvisited paths context := unvisited_lt hm hv rfl
    obtain ⟨result, after, he, hs⟩ :=
      hn { context with visited := context.visited ++ [path] } (by omega)
    exact ⟨result, after, by simp [ExceptT.run_bind, hv, he], fun _ hp => hs (by simp [hp])⟩

end EndsWithin

end Expanding

/-! ## Vectors that end -/

open Expanding in
/-- A reference to a path of `paths` ends at one depth more than what it refers to. -/
theorem endsWithin_expandPositional {nested : List String → Expanding Expansion}
    {argument : String} (hr : ∀ path, reference? argument = some path → path ∈ paths)
    (hn : ∀ path text, files.read path = .ok text →
      EndsWithin paths k (nested (argumentLines text))) :
    EndsWithin paths (k + 1) (expandPositional files nested argument) := by
  simp only [expandPositional]
  split
  · exact .ofExcept _
  split
  · exact .pure _
  · rename_i path hp
    refine .visit_bind (hr path hp) ?_
    cases h : files.read path with
    | error cause =>
        simp only [readArgumentFile, h, ofExcept_error_bind]
        exact .ofExcept _
    | ok text =>
        simp only [readArgumentFile, h, ofExcept_ok_bind]
        exact hn path text h

open Expanding in
/-- If every path that can come up is among `paths`, expansion ends as soon as the depth is above
the number of those that are new. -/
theorem endsWithin_expandWithin
    (hf : ∀ path text, files.read path = .ok text → mentioned (argumentLines text) ⊆ paths)
    {depth : Nat} {tokens : List String} (ht : mentioned tokens ⊆ paths) :
    EndsWithin paths depth (expandWithin files registry depth tokens) := by
  induction depth generalizing tokens with
  | zero => exact fun _ h => absurd h (Nat.not_lt_zero _)
  | succ depth ih =>
      cases h : OwnArguments.read registry tokens with
      | error fault =>
          simp only [expandWithin, h, ofExcept_error_bind]
          exact .ofExcept _
      | ok own =>
          simp only [expandWithin, h, ofExcept_ok_bind]
          refine (EndsWithin.record _).bind fun _ => .foldlM (fun argument ha e => ?_) _
          rw [map_eq_pure_bind]
          refine EndsWithin.bind ?_ fun _ => .pure _
          refine endsWithin_expandPositional (fun path hp => ht ?_) fun path text hr => ?_
          · exact List.mem_filterMap.2 ⟨argument, OwnArguments.positionals_subset h ha, hp⟩
          · exact ih (hf path text hr)

/-! ## Expansion in a file store -/

/-- The paths that can come up when `tokens` are expanded. -/
def reachable (store : FileStore) (tokens : List String) : List String :=
  mentioned tokens ++ store.texts.flatMap fun text => mentioned (argumentLines text)

/-- A depth at which the expansion of `tokens` ends. -/
def depthBound (store : FileStore) (tokens : List String) : Nat :=
  (reachable store tokens).length + 1

/-- In a file store expansion ends, with a value or a fault. -/
theorem isSome_expandWithin (store : FileStore) (registry : FlagRegistry) (tokens : List String)
    (context : ExpansionContext) :
    ((expandWithin store.toFileSystem registry (depthBound store tokens) tokens).run.run
      context).isSome := by
  have ends : Expanding.EndsWithin (reachable store tokens) (depthBound store tokens)
      (expandWithin store.toFileSystem registry (depthBound store tokens) tokens) :=
    endsWithin_expandWithin
      (fun _ text hr _ hp =>
        List.mem_append_right _ (List.mem_flatMap.2 ⟨text, store.mem_texts hr, hp⟩))
      (fun _ hp => List.mem_append_left _ hp)
  obtain ⟨result, after, h, _⟩ := ends context (Nat.lt_succ_of_le List.countP_le_length)
  simp [h]

/-- Expands a vector of tokens in a file store. The context afterwards shows what was referenced and
recorded, also before a fault. -/
def expand (store : FileStore) (registry : FlagRegistry) (tokens : List String)
    (context : ExpansionContext) : Except Fault Expansion × ExpansionContext :=
  ((expandWithin store.toFileSystem registry (depthBound store tokens) tokens).run.run
    context).get (isSome_expandWithin store registry tokens context)

theorem run_expandWithin_depthBound (store : FileStore) (registry : FlagRegistry)
    (tokens : List String) (context : ExpansionContext) :
    (expandWithin store.toFileSystem registry (depthBound store tokens) tokens).run.run context =
      some (expand store registry tokens context) :=
  (Option.some_get _).symm

end ProtocInvocation
