import ProtocInvocation.Proofs.Expansion.Run

/-!
# Outcomes of an expansion

A step that ends within some depth ends alike at every greater one, so what an expansion ends with
is a matter of the vector and the context only (`Expands.unique`). In a file store every expansion
ends, and `expand` gives its outcome (`expands_iff`).
-/

namespace ProtocInvocation

variable {α β : Type} {files : FileSystem} {registry : FlagRegistry} {tokens : List String}
  {before after : ExpansionContext}

/-! ## Steps that end alike -/

namespace Expanding

/-- Whatever `step` ends with, `further` ends with too. -/
def EndsAlike (step further : Expanding α) : Prop :=
  ∀ before outcome, step.run.run before = some outcome → further.run.run before = some outcome

namespace EndsAlike

theorem refl (step : Expanding α) : EndsAlike step step :=
  fun _ _ h => h

theorem unending (step : Expanding α) : EndsAlike Expanding.unending step := by
  intro before outcome h
  simp at h

theorem bind {step further : Expanding α} {next nextFurther : α → Expanding β}
    (h : EndsAlike step further) (hn : ∀ a, EndsAlike (next a) (nextFurther a)) :
    EndsAlike (step >>= next) (further >>= nextFurther) := by
  intro before outcome hr
  rw [run_bind_eq_some_iff] at hr ⊢
  rcases hr with ⟨fault, between, hs, rfl⟩ | ⟨a, between, hs, hr⟩
  · exact .inl ⟨fault, between, h _ _ hs, rfl⟩
  · exact .inr ⟨a, between, h _ _ hs, hn a _ _ hr⟩

end EndsAlike

end Expanding

/-! ## What holds of every step -/

/-- Two expansions of a vector, in two file systems and the second at least as deep, are related if
their steps are, and two steps in turn if each of them is. A reference is one step: its path is
noted and its file is read. -/
theorem expandWithin_induction₂ (other : FileSystem)
    {motive : ∀ {α : Type}, Expanding α → Expanding α → Prop}
    (unending : ∀ step : Expanding Expansion, motive Expanding.unending step)
    (pure : ∀ e : Expansion, motive (Pure.pure e) (Pure.pure e))
    (bind : ∀ {α : Type} {step further : Expanding α} {next nextFurther : α → Expanding Expansion},
      motive step further → (∀ a, motive (next a) (nextFurther a)) →
      motive (step >>= next) (further >>= nextFurther))
    (read : ∀ tokens, motive (Expanding.ofExcept (OwnArguments.read registry tokens))
      (Expanding.ofExcept (OwnArguments.read registry tokens)))
    (record : ∀ own : OwnArguments, motive (Expanding.record own.assignments)
      (Expanding.record own.assignments))
    (refuse : motive (Expanding.ofExcept (.error .emptyArgument) : Expanding Expansion)
      (Expanding.ofExcept (.error .emptyArgument)))
    (reference : ∀ path {next nextFurther : List String → Expanding Expansion},
      (∀ lines, motive (next lines) (nextFurther lines)) →
      motive
        (Expanding.visit path >>= fun _ =>
          Expanding.ofExcept (readArgumentFile files path) >>= next)
        (Expanding.visit path >>= fun _ =>
          Expanding.ofExcept (readArgumentFile other path) >>= nextFurther))
    {depth deeper : Nat} (h : depth ≤ deeper) (tokens : List String) :
    motive (expandWithin files registry depth tokens)
      (expandWithin other registry deeper tokens) := by
  induction depth generalizing deeper tokens with
  | zero => exact unending _
  | succ depth ih =>
      obtain ⟨deeper, rfl⟩ : ∃ d, deeper = d + 1 := ⟨deeper - 1, by omega⟩
      have hone (argument : String) :
          motive (expandPositional files (expandWithin files registry depth) argument)
            (expandPositional other (expandWithin other registry deeper) argument) := by
        simp only [expandPositional]
        split
        · exact refuse
        split
        · exact pure _
        · exact reference _ fun lines => ih (Nat.le_of_succ_le_succ h) lines
      -- the run over the positional arguments, from whatever those before have given
      have hall (items : List String) (e : Expansion) : motive
          (items.foldlM (fun e argument => (e ++ ·) <$>
            expandPositional files (expandWithin files registry depth) argument) e)
          (items.foldlM (fun e argument => (e ++ ·) <$>
            expandPositional other (expandWithin other registry deeper) argument) e) := by
        induction items generalizing e with
        | nil => exact pure e
        | cons argument items ihl =>
            rw [List.foldlM_cons, List.foldlM_cons, map_eq_pure_bind, map_eq_pure_bind]
            exact bind (bind (hone argument) fun _ => pure _) ihl
      exact bind (read tokens) fun own => bind (record own) fun _ => hall _ _

/-- What holds of every step of an expansion, and of two steps in turn if of each, holds of all of
it. -/
theorem expandWithin_induction {motive : ∀ {α : Type}, Expanding α → Prop}
    (unending : motive (Expanding.unending : Expanding Expansion))
    (pure : ∀ e : Expansion, motive (Pure.pure e : Expanding Expansion))
    (bind : ∀ {α : Type} {step : Expanding α} {next : α → Expanding Expansion},
      motive step → (∀ a, motive (next a)) → motive (step >>= next))
    (read : ∀ tokens, motive (Expanding.ofExcept (OwnArguments.read registry tokens)))
    (record : ∀ own : OwnArguments, motive (Expanding.record own.assignments))
    (refuse : motive (Expanding.ofExcept (.error .emptyArgument) : Expanding Expansion))
    (visit : ∀ path, motive (Expanding.visit path))
    (readFile : ∀ path, motive (Expanding.ofExcept (readArgumentFile files path)))
    (depth : Nat) (tokens : List String) : motive (expandWithin files registry depth tokens) :=
  expandWithin_induction₂ files (motive := fun step _ => motive step) (fun _ => unending) pure bind
    read record refuse (fun path _ _ hn => bind (visit path) fun _ => bind (readFile path) hn)
    (Nat.le_refl depth) tokens

open Expanding in
theorem endsAlike_expandWithin {depth deeper : Nat} (h : depth ≤ deeper) :
    EndsAlike (expandWithin files registry depth tokens)
      (expandWithin files registry deeper tokens) :=
  expandWithin_induction₂ files (motive := EndsAlike) .unending (fun _ => .refl _) .bind
    (fun _ => .refl _) (fun _ => .refl _) (.refl _)
    (fun _ _ _ hn => .bind (.refl _) fun _ => .bind (.refl _) hn) h tokens

/-! ## What an expansion ends with -/

/-- The expansion of `tokens` from `before` on ends with this value or fault in this context. -/
def Expands (files : FileSystem) (registry : FlagRegistry) (tokens : List String)
    (before : ExpansionContext) (outcome : Except Fault Expansion × ExpansionContext) : Prop :=
  ∃ depth, (expandWithin files registry depth tokens).run.run before = some outcome

theorem Expands.unique {first second : Except Fault Expansion × ExpansionContext}
    (hf : Expands files registry tokens before first)
    (hs : Expands files registry tokens before second) : first = second := by
  obtain ⟨depth, hf⟩ := hf
  obtain ⟨depth', hs⟩ := hs
  have hf' := endsAlike_expandWithin (Nat.le_max_left depth depth') before first hf
  have hs' := endsAlike_expandWithin (Nat.le_max_right depth depth') before second hs
  exact Option.some.inj (hf'.symm.trans hs')

theorem expands_iff {store : FileStore} {outcome : Except Fault Expansion × ExpansionContext} :
    Expands store.toFileSystem registry tokens before outcome ↔
      expand store registry tokens before = outcome := by
  have he :
      Expands store.toFileSystem registry tokens before (expand store registry tokens before) :=
    ⟨_, run_expandWithin_depthBound store registry tokens before⟩
  constructor
  · exact he.unique
  · rintro rfl
    exact he

/-- An expansion ends well if and only if its vector has a tree that the context admits, and gives
what the tree gives. -/
theorem expands_ok_iff {e : Expansion} :
    Expands files registry tokens before (.ok e, after) ↔
      ∃ tree : ExpansionTree registry, tree.IsOf files tokens ∧
        before.Admits tree.references tree.assignments after ∧ e = tree.expansion := by
  constructor
  · rintro ⟨depth, h⟩
    obtain ⟨tree, ht, _, hb, he⟩ := (expandsTrees_expandWithin _ _ _ _).1 h
    exact ⟨tree, ht, hb, he⟩
  · rintro ⟨tree, ht, hb, he⟩
    exact ⟨tree.branches.depth + 1,
      (expandsTrees_expandWithin _ _ _ _).2 ⟨tree, ht, Nat.lt_succ_self _, hb, he⟩⟩

/-! ## Vectors that are refused themselves -/

/-- A vector is refused for what it says itself: it cannot be read, or an assignment of its own
cannot be made. -/
inductive RefusedItself (registry : FlagRegistry) (tokens : List String)
    (before : ExpansionContext) : Fault → ExpansionContext → Prop
  | reading {fault : Fault} :
      OwnArguments.read registry tokens = .error fault →
      RefusedItself registry tokens before fault before
  | assigning {own : OwnArguments} {fault : Fault} {plugins : PluginTable} :
      OwnArguments.read registry tokens = .ok own →
      before.plugins.record own.assignments = (.error fault, plugins) →
      RefusedItself registry tokens before fault { before with plugins }

theorem RefusedItself.expands {fault : Fault} (h : RefusedItself registry tokens before fault after)
    (files : FileSystem) : Expands files registry tokens before (.error fault, after) := by
  refine ⟨1, ?_⟩
  cases h with
  | reading h =>
      rw [expandWithin, h]
      rfl
  | assigning h hr =>
      rw [expandWithin_succ h, Expanding.run_bind_eq_error_iff, Expanding.run_record, hr]
      exact .inl rfl

/-! ## Vectors that refer to nothing -/

/-- The branches of files to compile. -/
def Branches.ofFiles : List String → Branches registry
  | [] => .done
  | path :: paths => .file path (ofFiles paths)

namespace Branches

variable {paths : List String}

theorem unfold_ofFiles (h : ∀ path ∈ paths, path ≠ "" ∧ reference? path = none) :
    Unfold files paths (ofFiles paths : Branches registry) := by
  induction paths with
  | nil => exact .done
  | cons path paths ih =>
      obtain ⟨⟨hne, hr⟩, hlater⟩ := List.forall_mem_cons.1 h
      exact .file hne hr (ih hlater)

@[simp] theorem references_ofFiles : (ofFiles paths : Branches registry).references = [] := by
  induction paths with
  | nil => rfl
  | cons path paths ih => exact ih

@[simp] theorem vectors_ofFiles : (ofFiles paths : Branches registry).vectors = [] := by
  induction paths with
  | nil => rfl
  | cons path paths ih => exact ih

@[simp] theorem expansion_ofFiles :
    (ofFiles paths : Branches registry).expansion = { filePaths := paths } := by
  induction paths with
  | nil => rfl
  | cons path paths ih =>
      rw [ofFiles, expansion, ih]
      exact Expansion.ext (Settings.default_merge default) rfl

end Branches

/-- A vector that refers to nothing gives what it says itself, whatever the files hold. -/
theorem expands_of_files {own : OwnArguments} {plugins : PluginTable}
    (ho : OwnArguments.read registry tokens = .ok own)
    (hp : ∀ path ∈ own.positionals, path ≠ "" ∧ reference? path = none)
    (hr : before.plugins.record own.assignments = (.ok (), plugins)) :
    Expands files registry tokens before
      (.ok ⟨own.settings, own.positionals⟩, { before with plugins }) := by
  obtain ⟨root, rfl, rfl⟩ := ArgumentVector.exists_of_read ho
  let tree : ExpansionTree registry := ⟨root, .ofFiles root.own.positionals⟩
  have href : tree.references = [] := Branches.references_ofFiles
  have has : tree.assignments = root.own.assignments := by
    simp [tree, ExpansionTree.assignments, ExpansionTree.vectors]
  have he : tree.expansion = ⟨root.own.settings, root.own.positionals⟩ := by
    rw [ExpansionTree.expansion, Branches.expansion_ofFiles]
    exact Expansion.ext (Settings.merge_default root.own.settings) rfl
  have hu : tree.IsOf files root.tokens := ⟨rfl, Branches.unfold_ofFiles hp⟩
  refine expands_ok_iff.2 ⟨tree, hu, ?_, he.symm⟩
  rw [href, has]
  exact ⟨nofun, .nil, (List.append_nil _).symm, hr⟩

end ProtocInvocation
