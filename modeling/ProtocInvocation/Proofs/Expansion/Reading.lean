import ProtocInvocation.Proofs.Expansion.Faults

/-!
# Faults found in reading

A vector is read before any file that it refers to, and before the arguments behind a reference are
looked at. So a fault that is found in reading is one of the vector that was read last: the
expansion's own tokens if no file was visited, and otherwise the lines of the file that was visited
last. Main statement: `Expands.read_lastRead`.
-/

namespace ProtocInvocation

variable {α : Type} {files : FileSystem} {registry : FlagRegistry} {tokens : List String}
  {before after : ExpansionContext} {fault : Fault}

/-- The fault is one of reading the lines of the file that was visited last. -/
def FailsInFile (files : FileSystem) (registry : FlagRegistry) (fault : Fault)
    (after : ExpansionContext) : Prop :=
  ∃ path lines, after.visited.getLast? = some path ∧ readArgumentFile files path = .ok lines ∧
    OwnArguments.read registry lines = .error fault

/-- What `nested` ends with a fault of reading has that fault itself, or the file that was visited
last has it. -/
def FailsInReading (files : FileSystem) (registry : FlagRegistry)
    (nested : List String → Expanding Expansion) : Prop :=
  ∀ tokens before fault after, (nested tokens).run.run before = some (.error fault, after) →
    fault.stage = .reading →
      OwnArguments.read registry tokens = .error fault ∧ before = after ∨
        FailsInFile files registry fault after

/-! ## Steps -/

section Steps

variable {nested : List String → Expanding Expansion}

theorem Expanding.exists_of_run_foldlM_eq_error {one : α → Expanding Expansion} {items : List α}
    {first : Expansion}
    (h : (items.foldlM (fun e a => (e ++ ·) <$> one a) first).run.run before =
      some (.error fault, after)) :
    ∃ a ∈ items, ∃ between, (one a).run.run between = some (.error fault, after) := by
  induction items generalizing first before with
  | nil => cases h
  | cons a items ih =>
      rw [List.foldlM_cons, run_bind_eq_error_iff] at h
      rcases h with h | ⟨e, between, _, h⟩
      · exact ⟨a, List.mem_cons_self, before, run_map_eq_error_iff.1 h⟩
      · obtain ⟨b, hb, h⟩ := ih h
        exact ⟨b, List.mem_cons_of_mem _ hb, h⟩

theorem failsInFile_of_expandPositional (hn : FailsInReading files registry nested)
    {argument : String} (hs : fault.stage = .reading)
    (h : (expandPositional files nested argument).run.run before = some (.error fault, after)) :
    FailsInFile files registry fault after := by
  simp only [expandPositional] at h
  split at h
  · cases h
    cases hs
  split at h
  · cases h
  rename_i path _
  rcases Expanding.run_bind_eq_error_iff.1 h with h | ⟨_, between, hv, h⟩
  · rw [Expanding.run_visit] at h
    split at h
    · cases h
      cases hs
    · cases h
  cases hl : readArgumentFile files path with
  | error other =>
      rw [hl] at h
      cases h
      rw [stage_of_readArgumentFile hl] at hs
      cases hs
  | ok lines =>
      rw [hl, Expanding.ofExcept_ok_bind] at h
      rcases hn _ _ _ _ h hs with ⟨hr, rfl⟩ | hf
      · -- the file itself is refused, and its path was the last that was noted
        have hvisited := (ExpansionContext.admits_path_iff.2 hv).visited_eq
        exact ⟨path, lines, by rw [hvisited, List.getLast?_concat], hl, hr⟩
      · exact hf

theorem failsInReading_expandWithin (depth : Nat) :
    FailsInReading files registry (expandWithin files registry depth) := by
  induction depth with
  | zero =>
      intro tokens before fault after h
      cases h
  | succ depth ih =>
      intro tokens before fault after h hs
      cases ho : OwnArguments.read registry tokens with
      | error other =>
          rw [expandWithin, ho] at h
          cases h
          exact .inl ⟨rfl, rfl⟩
      | ok own =>
          rw [expandWithin_succ ho] at h
          rcases Expanding.run_bind_eq_error_iff.1 h with h | ⟨_, between, _, h⟩
          · rw [Expanding.run_record] at h
            obtain ⟨hf, _⟩ := Prod.mk.inj (Option.some.inj h)
            rw [OwnArguments.stage_of_record hf] at hs
            cases hs
          · obtain ⟨argument, _, between, h⟩ := Expanding.exists_of_run_foldlM_eq_error h
            exact .inr (failsInFile_of_expandPositional ih hs h)

end Steps

/-! ## The vector that was read last -/

/-- The vector that was read last: the tokens themselves if no file was visited, and otherwise the
lines of the file that was visited last. -/
def lastRead (files : FileSystem) (tokens : List String) (after : ExpansionContext) :
    Except Fault (List String) :=
  after.visited.getLast?.elim (.ok tokens) (readArgumentFile files)

/-- A fault of reading is one of the vector that was read last. -/
theorem Expands.read_lastRead (h : Expands files registry tokens default (.error fault, after))
    (hs : fault.stage = .reading) :
    ∃ vector, lastRead files tokens after = .ok vector ∧
      OwnArguments.read registry vector = .error fault := by
  obtain ⟨depth, h⟩ := h
  rcases failsInReading_expandWithin depth _ _ _ _ h hs with ⟨hr, rfl⟩ | ⟨path, lines, hv, hl, hr⟩
  · exact ⟨tokens, rfl, hr⟩
  · refine ⟨lines, ?_, hr⟩
    rw [lastRead, hv, Option.elim_some, hl]

end ProtocInvocation
