import Mathlib.Control.Monad.Basic
import Mathlib.Logic.Relation
import ProtocInvocation.Proofs.Argument.Faults
import ProtocInvocation.Proofs.Expansion.Outcome

/-!
# Repeated references

Which references end an expansion. One that ends well refers to no path twice and to none that was
visited before, and no file that it comes to leads back to itself, under whatever path. One that is
refused for a repeated reference has met that path before (`Branches.Meets`). Main statement:
`references_of_expands`.
-/

namespace ProtocInvocation

variable {α β : Type} {files : FileSystem} {registry : FlagRegistry} {tokens : List String}
  {before between after : ExpansionContext} {path : String}

/-! ## Files that lead to files -/

/-- A positional argument among `tokens` refers to `path`. -/
def RefersTo (registry : FlagRegistry) (tokens : List String) (path : String) : Prop :=
  ∃ arguments argument, Argument.classify registry tokens = .ok arguments ∧
    .positional argument ∈ arguments ∧ reference? argument = some path

/-- The argument file at `path` refers to `next`. -/
def LeadsTo (files : FileSystem) (registry : FlagRegistry) (path next : String) : Prop :=
  ∃ lines, readArgumentFile files path = .ok lines ∧ RefersTo registry lines next

theorem ArgumentVector.mem_positionals {v : ArgumentVector registry} {argument : String} :
    argument ∈ v.own.positionals ↔ .positional argument ∈ v.arguments := by
  obtain ⟨settings, _, he⟩ := v.ofArguments_eq
  rw [he, List.mem_filterMap]
  constructor
  · rintro ⟨a, ha, hp⟩
    cases a with
    | positional text =>
        cases hp
        exact ha
    | _ => cases hp
  · exact fun ha => ⟨_, ha, rfl⟩

theorem ArgumentVector.exists_of_refersTo {v : ArgumentVector registry}
    (h : RefersTo registry v.tokens path) :
    ∃ argument ∈ v.own.positionals, reference? argument = some path := by
  obtain ⟨arguments, argument, hc, hm, hr⟩ := h
  obtain rfl := Except.ok.inj (v.classify_tokens.symm.trans hc)
  exact ⟨argument, mem_positionals.2 hm, hr⟩

/-- A reference is followed by all references below it. -/
theorem Branches.Unfold.infix_references {arguments : List String} {branches : Branches registry}
    (h : Unfold files arguments branches) {argument : String} (hm : argument ∈ arguments)
    (hr : reference? argument = some path) :
    ∃ tree : ExpansionTree registry, readArgumentFile files path = .ok tree.root.tokens ∧
      Unfold files tree.root.own.positionals tree.branches ∧
      (path :: tree.references) <:+: branches.references := by
  induction h with
  | done => cases hm
  | file _ hn _ ih =>
      rcases List.mem_cons.1 hm with rfl | hm
      · rw [hn] at hr
        cases hr
      · exact ih hm
  | @reference _ _ _ vector nested later hr' ht hv hl ihn ihl =>
      rcases List.mem_cons.1 hm with rfl | hm
      · rw [hr'] at hr
        cases hr
        exact ⟨⟨vector, nested⟩, ht, hv, [], later.references, rfl⟩
      · obtain ⟨tree, ht', hv', hi⟩ := ihl hm
        refine ⟨tree, ht', hv', hi.trans ?_⟩
        rw [references_reference]
        exact (List.suffix_append _ _).isInfix

namespace ExpansionTree

variable {tree : ExpansionTree registry} {next : String}

theorem IsOf.infix_of_refersTo (h : tree.IsOf files tokens) (hr : RefersTo registry tokens path) :
    ∃ below : ExpansionTree registry, ∃ lines, readArgumentFile files path = .ok lines ∧
      below.IsOf files lines ∧ (path :: below.references) <:+: tree.references := by
  rw [← h.tokens_eq] at hr
  obtain ⟨argument, hm, hr⟩ := ArgumentVector.exists_of_refersTo hr
  obtain ⟨below, ht, hu, hi⟩ := h.unfold.infix_references hm hr
  exact ⟨below, _, ht, ⟨rfl, hu⟩, hi⟩

theorem IsOf.infix_of_transGen {lines : List String} (h : tree.IsOf files lines)
    (hl : readArgumentFile files path = .ok lines)
    (hc : Relation.TransGen (LeadsTo files registry) path next) :
    ∃ below : ExpansionTree registry, ∃ nextLines, readArgumentFile files next = .ok nextLines ∧
      below.IsOf files nextLines ∧ (next :: below.references) <:+: tree.references := by
  induction hc with
  | single hn =>
      obtain ⟨_, hl', hr⟩ := hn
      obtain rfl := Except.ok.inj (hl.symm.trans hl')
      exact h.infix_of_refersTo hr
  | tail _ hn ih =>
      obtain ⟨middle, _, hm, ho, hi⟩ := ih
      obtain ⟨_, hm', hr⟩ := hn
      obtain rfl := Except.ok.inj (hm.symm.trans hm')
      obtain ⟨below, nextLines, hl', ho', hi'⟩ := ho.infix_of_refersTo hr
      exact ⟨below, nextLines, hl', ho', hi'.trans ((List.suffix_cons _ _).isInfix.trans hi)⟩

/-- What a file leads to is not the file itself: it would stand below itself in the tree. -/
theorem IsOf.read_ne {first : String} (h : tree.IsOf files tokens)
    (hf : RefersTo registry tokens first)
    (hp : Relation.ReflTransGen (LeadsTo files registry) first path)
    (hn : Relation.TransGen (LeadsTo files registry) path next) :
    files.read path ≠ files.read next := by
  intro he
  obtain ⟨top, lines, hl, ho, _⟩ := h.infix_of_refersTo hf
  obtain ⟨middle, lines, hl, ho⟩ : ∃ middle : ExpansionTree registry, ∃ lines,
      readArgumentFile files path = .ok lines ∧ middle.IsOf files lines := by
    rcases Relation.reflTransGen_iff_eq_or_transGen.1 hp with rfl | hc
    · exact ⟨top, lines, hl, ho⟩
    · obtain ⟨middle, lines, hl, ho, _⟩ := ho.infix_of_transGen hl hc
      exact ⟨middle, lines, hl, ho⟩
  obtain ⟨below, nextLines, hl', ho', hi⟩ := ho.infix_of_transGen hl hn
  obtain rfl : lines = nextLines := by
    simp only [readArgumentFile, ← he] at hl hl'
    cases hr : files.read path with
    | error cause =>
        rw [hr] at hl
        cases hl
    | ok text =>
        rw [hr] at hl hl'
        exact Except.ok.inj (hl.symm.trans hl')
  -- one text has one tree, so the tree below would hold itself
  obtain rfl := ho.unique ho'
  have hlength := hi.length_le
  rw [List.length_cons] at hlength
  omega

end ExpansionTree

/-! ## References that are met -/

namespace Branches

/-- In depth-first order, a reference to a path comes right after the references `earlier`. -/
inductive Meets (files : FileSystem) (registry : FlagRegistry) :
    List String → (earlier : List String) → (path : String) → Prop
  | here {argument path : String} {arguments : List String} :
      reference? argument = some path → Meets files registry (argument :: arguments) [] path
  | file {argument path : String} {arguments earlier : List String} :
      argument ≠ "" → reference? argument = none → Meets files registry arguments earlier path →
      Meets files registry (argument :: arguments) earlier path
  | within {argument first path : String} {arguments earlier : List String}
      {vector : ArgumentVector registry} :
      reference? argument = some first → readArgumentFile files first = .ok vector.tokens →
      Meets files registry vector.own.positionals earlier path →
      Meets files registry (argument :: arguments) (first :: earlier) path
  | reference {argument first path : String} {arguments earlier : List String}
      {vector : ArgumentVector registry} {nested : Branches registry} :
      reference? argument = some first → readArgumentFile files first = .ok vector.tokens →
      Unfold files vector.own.positionals nested → Meets files registry arguments earlier path →
      Meets files registry (argument :: arguments) (first :: nested.references ++ earlier) path

end Branches

section Alarms

variable {nested : List String → Expanding Expansion} {depth : Nat}

/-- The arguments meet a reference to `path` that was visited before the run or by it. -/
def Alarmed (files : FileSystem) (registry : FlagRegistry) (before : ExpansionContext)
    (arguments : List String) (path : String) (after : ExpansionContext) : Prop :=
  ∃ earlier, Branches.Meets files registry arguments earlier path ∧
    after.visited = before.visited ++ earlier ∧ path ∈ after.visited

/-- What `nested` refuses for a repeated reference does repeat it. -/
def RefusesRepeats (files : FileSystem) (registry : FlagRegistry)
    (nested : List String → Expanding Expansion) : Prop :=
  ∀ tokens before after path,
    (nested tokens).run.run before = some (.error (.recursiveReference path), after) →
      ∃ v : ArgumentVector registry, v.tokens = tokens ∧
        Alarmed files registry before v.own.positionals path after

theorem alarmed_of_expandPositional (hn : RefusesRepeats files registry nested)
    {argument : String} {later : List String}
    (h : (expandPositional files nested argument).run.run before =
      some (.error (.recursiveReference path), after)) :
    Alarmed files registry before (argument :: later) path after := by
  simp only [expandPositional] at h
  split at h
  · cases h
  split at h
  · cases h
  · rename_i first hr
    rcases Expanding.run_bind_eq_error_iff.1 h with h | ⟨_, between, hv, h⟩
    · -- the reference itself is the repeated one
      rw [Expanding.run_visit] at h
      split at h
      · rename_i hm
        cases h
        exact ⟨[], .here hr, by simp, hm⟩
      · cases h
    · rw [Expanding.run_visit] at hv
      split at hv
      · cases hv
      cases hv
      cases hl : readArgumentFile files first with
      | error fault =>
          simp only [readArgumentFile] at hl
          split at hl
          · cases hl
          cases hl
          rename_i hf
          simp only [readArgumentFile, hf, Expanding.ofExcept_error_bind] at h
          cases h
      | ok lines =>
          rw [hl, Expanding.ofExcept_ok_bind] at h
          obtain ⟨v, rfl, earlier, hm, hv, hp⟩ := hn _ _ _ _ h
          exact ⟨first :: earlier, .within hr hl hm, by simpa using hv, hp⟩

theorem alarmed_of_foldlM (hn : RefusesRepeats files registry nested)
    (ht : ExpandsTrees files registry depth nested) {arguments : List String} {first : Expansion}
    (h : (arguments.foldlM (fun e argument => (e ++ ·) <$> expandPositional files nested argument)
      first).run.run before = some (.error (.recursiveReference path), after)) :
    Alarmed files registry before arguments path after := by
  induction arguments generalizing before first with
  | nil => cases h
  | cons argument arguments ih =>
      rw [List.foldlM_cons, Expanding.run_bind_eq_error_iff] at h
      rcases h with h | ⟨e, between, ho, h⟩
      · exact alarmed_of_expandPositional hn (Expanding.run_map_eq_error_iff.1 h)
      · obtain ⟨earlier, hm, hv, hp⟩ := ih h
        obtain ⟨f, ho, _⟩ := Expanding.run_map_eq_ok_iff.1 ho
        rcases (run_expandPositional_eq_ok_iff ht).1 ho with
          ⟨ha, hr, rfl, _⟩ | ⟨first, tree, hr, hl, hu, _, hb, _⟩
        · exact ⟨earlier, .file ha hr hm, hv, hp⟩
        · refine ⟨_, .reference hr hl hu hm, ?_, hp⟩
          rw [hv, hb.visited_eq, List.append_assoc]
          rfl

theorem refusesRepeats_expandWithin :
    RefusesRepeats files registry (expandWithin files registry depth) := by
  induction depth with
  | zero =>
      intro tokens before after path h
      cases h
  | succ depth ih =>
      intro tokens before after path h
      cases ho : OwnArguments.read registry tokens with
      | error fault =>
          -- neither reading nor recording has a fault about references
          rw [expandWithin, ho, Expanding.ofExcept_error_bind] at h
          cases h
          cases OwnArguments.stage_of_read ho
      | ok own =>
          rw [expandWithin, ho, Expanding.ofExcept_ok_bind] at h
          obtain ⟨root, rfl, rfl⟩ := ArgumentVector.exists_of_read ho
          rcases Expanding.run_bind_eq_error_iff.1 h with h | ⟨_, between, hr, h⟩
          · rw [Expanding.run_record] at h
            obtain ⟨hf, _⟩ := Prod.mk.inj (Option.some.inj h)
            cases OwnArguments.stage_of_record hf
          · obtain ⟨earlier, hm, hv, hp⟩ := alarmed_of_foldlM ih expandsTrees_expandWithin h
            rw [Expanding.run_record] at hr
            obtain ⟨_, rfl⟩ := Prod.mk.inj (Option.some.inj hr)
            exact ⟨root, rfl, earlier, hm, hv, hp⟩

end Alarms

/-! ## Which references end an expansion -/

/-- In the tree of an accepted expansion no path is referred to twice, none was visited before, and
afterwards just these are visited besides. No file that the vector comes to leads, directly or
through others, to itself under the same or another path. An expansion that is refused for a
repeated reference has met this path: in depth-first order a reference to it follows references of
which it is one, unless it was visited before. -/
theorem references_of_expands {result : Except Fault Expansion}
    (h : Expands files registry tokens before (result, after)) :
    (∀ e, result = .ok e →
      (∃ tree : ExpansionTree registry, tree.IsOf files tokens ∧ tree.references.Nodup ∧
        (∀ path ∈ tree.references, path ∉ before.visited) ∧
        after.visited = before.visited ++ tree.references) ∧
      ∀ first path next, RefersTo registry tokens first →
        Relation.ReflTransGen (LeadsTo files registry) first path →
        Relation.TransGen (LeadsTo files registry) path next →
        files.read path ≠ files.read next) ∧
    ∀ path, result = .error (.recursiveReference path) →
      ∃ v : ArgumentVector registry, v.tokens = tokens ∧
        ∃ earlier, Branches.Meets files registry v.own.positionals earlier path ∧
          after.visited = before.visited ++ earlier ∧ (path ∈ before.visited ∨ path ∈ earlier) := by
  constructor
  · rintro e rfl
    obtain ⟨tree, ht, ha, _⟩ := expands_ok_iff.1 h
    refine ⟨⟨tree, ht, ha.nodup, ha.notMem_visited, ha.visited_eq⟩, ?_⟩
    intro first path next hf hp hn
    exact ht.read_ne hf hp hn
  · rintro path rfl
    obtain ⟨depth, h⟩ := h
    obtain ⟨v, ht, earlier, hm, hv, hp⟩ := refusesRepeats_expandWithin _ _ _ _ h
    rw [hv] at hp
    exact ⟨v, ht, earlier, hm, hv, List.mem_append.1 hp⟩

/-- Two files that refer to one are refused; one reference to each file is not. -/
theorem references_of_expands_shared :
    (Expands (FileStore.ofAnswers [("f", .ok "@g"), ("g", .ok "a.proto")]).toFileSystem .builtin
        ["@f"] ⟨["h"], default⟩ (.ok ⟨{}, ["a.proto"]⟩, ⟨["h", "f", "g"], default⟩) ∧
      ∃ tree : ExpansionTree .builtin, tree.IsOf (FileStore.ofAnswers
          [("f", .ok "@g"), ("g", .ok "a.proto")]).toFileSystem ["@f"] ∧
        tree.references = ["f", "g"]) ∧
    (Expands (FileStore.ofAnswers [("f", .ok "@g"), ("g", .ok "a.proto")]).toFileSystem .builtin
        ["@f", "@g"] default (.error (.recursiveReference "g"), ⟨["f", "g"], default⟩) ∧
      ∃ v : ArgumentVector .builtin, v.tokens = ["@f", "@g"] ∧
        Branches.Meets (FileStore.ofAnswers
          [("f", .ok "@g"), ("g", .ok "a.proto")]).toFileSystem .builtin v.own.positionals
          ["f", "g"] "g") := by
  constructor
  · have h : Expands (FileStore.ofAnswers [("f", .ok "@g"), ("g", .ok "a.proto")]).toFileSystem
        .builtin ["@f"] ⟨["h"], default⟩
        (.ok ⟨{}, ["a.proto"]⟩, ⟨["h", "f", "g"], default⟩) := expands_iff.2 (by decide +kernel)
    obtain ⟨⟨tree, ht, _, _, hv⟩, _⟩ := (references_of_expands h).1 _ rfl
    exact ⟨h, tree, ht, by simpa using hv.symm⟩
  · have h : Expands (FileStore.ofAnswers [("f", .ok "@g"), ("g", .ok "a.proto")]).toFileSystem
        .builtin ["@f", "@g"] default
        (.error (.recursiveReference "g"), ⟨["f", "g"], default⟩) :=
      expands_iff.2 (by decide +kernel)
    obtain ⟨v, ht, earlier, hm, hv, _⟩ := (references_of_expands h).2 _ rfl
    obtain rfl : ["f", "g"] = earlier := hv
    exact ⟨h, v, ht, hm⟩

end ProtocInvocation
