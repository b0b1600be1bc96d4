import ProtocInvocation.Proofs.Expansion.Positionals

/-!
# Vectors that go on

Positional tokens behind a vector are expanded as a vector of their own would be after it: all else
that the vector says comes before its positional arguments anyway. The two are equal as steps
(`expandWithin_append`), so they agree in the result, in the fault and in the context. Main
statement: `expands_append_iff`.
-/

namespace ProtocInvocation

variable {α : Type} {files : FileSystem} {registry : FlagRegistry} {tokens later : List String}
  {before after : ExpansionContext}

/-! ## Steps -/

namespace Expanding

theorem foldlM_append_left {one : α → Expanding Expansion} (items : List α) (e f : Expansion) :
    items.foldlM (fun e a => (e ++ ·) <$> one a) (e ++ f) =
      (e ++ ·) <$> items.foldlM (fun e a => (e ++ ·) <$> one a) f := by
  induction items generalizing f with
  | nil => simp
  | cons a items ih =>
      rw [List.foldlM_cons, List.foldlM_cons, bind_map_left, bind_map_left, map_bind]
      refine bind_congr fun g => ?_
      rw [Expansion.append_assoc, ih]

theorem record_nil : record [] = pure () := rfl

end Expanding

theorem expandWithin_append {depth : Nat}
    (hv : ∀ spelling, Argument.classify registry tokens ≠ .error (.missingValue spelling))
    (hl : ∀ token ∈ later, Argument.isDashed token = false) :
    expandWithin files registry depth (tokens ++ later) =
      expandWithin files registry depth tokens >>= fun e =>
        (e ++ ·) <$> expandWithin files registry depth later := by
  cases depth with
  | zero => rfl
  | succ depth =>
      have hread := OwnArguments.read_append hv hl
      cases ho : OwnArguments.read registry tokens with
      | error fault =>
          rw [ho] at hread
          rw [expandWithin, expandWithin, hread, ho]
          rfl
      | ok own =>
          rw [ho] at hread
          -- the later tokens have nothing to record, so one record comes first on both sides
          have hnone : OwnArguments.assignments ⟨default, .empty, later⟩ = [] := rfl
          rw [expandWithin_succ hread, expandWithin_succ ho,
            expandWithin_succ (OwnArguments.read_positionals hl), hnone, Expanding.record_nil,
            bind_assoc, pure_bind]
          refine bind_congr fun _ => ?_
          rw [List.foldlM_append]
          refine bind_congr fun e => ?_
          rw [← Expanding.foldlM_append_left]
          exact congrArg (later.foldlM _) Expansion.append_default.symm

/-! ## Outcomes -/

/-- What expanding a vector and then another in the context that it leaves ends with: the two
results joined, or the first fault. -/
inductive ExpandsThen (files : FileSystem) (registry : FlagRegistry) (tokens later : List String)
    (before : ExpansionContext) : Except Fault Expansion × ExpansionContext → Prop
  | refused {fault : Fault} {after : ExpansionContext} :
      Expands files registry tokens before (.error fault, after) →
      ExpandsThen files registry tokens later before (.error fault, after)
  | refusedLater {e : Expansion} {fault : Fault} {between after : ExpansionContext} :
      Expands files registry tokens before (.ok e, between) →
      Expands files registry later between (.error fault, after) →
      ExpandsThen files registry tokens later before (.error fault, after)
  | joined {e f : Expansion} {between after : ExpansionContext} :
      Expands files registry tokens before (.ok e, between) →
      Expands files registry later between (.ok f, after) →
      ExpandsThen files registry tokens later before
        (.ok ⟨e.settings.merge f.settings, e.filePaths ++ f.filePaths⟩, after)

theorem expandsThen_of_run {depth : Nat} {outcome : Except Fault Expansion × ExpansionContext}
    (h : (expandWithin files registry depth tokens >>= fun e =>
      (e ++ ·) <$> expandWithin files registry depth later).run.run before = some outcome) :
    ExpandsThen files registry tokens later before outcome := by
  obtain ⟨_ | _, after⟩ := outcome
  · rcases Expanding.run_bind_eq_error_iff.1 h with h | ⟨e, between, he, h⟩
    · exact .refused ⟨depth, h⟩
    · exact .refusedLater ⟨depth, he⟩ ⟨depth, Expanding.run_map_eq_error_iff.1 h⟩
  · obtain ⟨e, between, he, h⟩ := Expanding.run_bind_eq_ok_iff.1 h
    obtain ⟨f, hf, rfl⟩ := Expanding.run_map_eq_ok_iff.1 h
    exact .joined ⟨depth, he⟩ ⟨depth, hf⟩

theorem Expands.exists_depth {between : ExpansionContext}
    {first second : Except Fault Expansion × ExpansionContext}
    (hf : Expands files registry tokens before first)
    (hs : Expands files registry later between second) :
    ∃ depth, (expandWithin files registry depth tokens).run.run before = some first ∧
      (expandWithin files registry depth later).run.run between = some second := by
  obtain ⟨depth, hf⟩ := hf
  obtain ⟨depth', hs⟩ := hs
  exact ⟨max depth depth', endsAlike_expandWithin (Nat.le_max_left ..) _ _ hf,
    endsAlike_expandWithin (Nat.le_max_right ..) _ _ hs⟩

theorem ExpandsThen.exists_run {outcome : Except Fault Expansion × ExpansionContext}
    (h : ExpandsThen files registry tokens later before outcome) :
    ∃ depth, (expandWithin files registry depth tokens >>= fun e =>
      (e ++ ·) <$> expandWithin files registry depth later).run.run before = some outcome := by
  cases h with
  | refused h =>
      obtain ⟨depth, h⟩ := h
      exact ⟨depth, Expanding.run_bind_eq_error_iff.2 (.inl h)⟩
  | @refusedLater e _ between _ he h =>
      obtain ⟨depth, he, h⟩ := he.exists_depth h
      exact ⟨depth, Expanding.run_bind_eq_error_iff.2
        (.inr ⟨e, between, he, Expanding.run_map_eq_error_iff.2 h⟩)⟩
  | @joined e f between _ he h =>
      obtain ⟨depth, he, h⟩ := he.exists_depth h
      exact ⟨depth, Expanding.run_bind_eq_ok_iff.2
        ⟨e, between, he, Expanding.run_map_eq_ok_iff.2 ⟨f, h, rfl⟩⟩⟩

/-- Expanding a vector with positional tokens behind it is expanding the vector and then these
tokens in the context that it leaves. The two end with the same result, or with the same fault, and
leave the same context. -/
theorem expands_append_iff {outcome : Except Fault Expansion × ExpansionContext}
    (hv : ∀ spelling, Argument.classify registry tokens ≠ .error (.missingValue spelling))
    (hl : ∀ token ∈ later, Argument.isDashed token = false) :
    Expands files registry (tokens ++ later) before outcome ↔
      ExpandsThen files registry tokens later before outcome := by
  constructor
  · rintro ⟨depth, h⟩
    rw [expandWithin_append hv hl] at h
    exact expandsThen_of_run h
  · intro h
    obtain ⟨depth, h⟩ := h.exists_run
    refine ⟨depth, ?_⟩
    rwa [expandWithin_append hv hl]

/-- The tokens behind the vector are accepted, or refused halfway: the second file is noted by then,
and what it says has been recorded. -/
theorem expands_append_iff_halfway :
    Expands (FileStore.ofAnswers [("f", .ok "--go_out=gen\na.proto"), ("g", .ok "-Ib\nb.proto"),
        ("h", .ok "--go_opt=x\n@f")]).toFileSystem .builtin (["-Ia", "@f"] ++ ["-", "@g"]) default
        (.ok ⟨{ includeDirPaths := ["a", "b"] }, ["a.proto", "-", "b.proto"]⟩,
          ⟨["f", "g"], ⟨[("go", ⟨"gen", none, none⟩)], by decide⟩⟩) ∧
      Expands (FileStore.ofAnswers [("f", .ok "--go_out=gen\na.proto"), ("g", .ok "-Ib\nb.proto"),
        ("h", .ok "--go_opt=x\n@f")]).toFileSystem .builtin (["-Ia", "@f"] ++ ["@h", "@g"]) default
        (.error (.recursiveReference "f"),
          ⟨["f", "h"], ⟨[("go", ⟨"gen", some "x", none⟩)], by decide⟩⟩) := by
  have hread : Argument.classify .builtin ["-Ia", "@f"] =
      .ok [.flag .includeDirPaths "-I" (some "a"), .positional "@f"] := by decide +kernel
  have hv (spelling : String) : Argument.classify .builtin ["-Ia", "@f"] ≠
      .error (.missingValue spelling) := fun he => by cases hread.symm.trans he
  have hfirst : Expands (FileStore.ofAnswers [("f", .ok "--go_out=gen\na.proto"),
      ("g", .ok "-Ib\nb.proto"), ("h", .ok "--go_opt=x\n@f")]).toFileSystem .builtin ["-Ia", "@f"]
      default (.ok ⟨{ includeDirPaths := ["a"] }, ["a.proto"]⟩,
        ⟨["f"], ⟨[("go", ⟨"gen", none, none⟩)], by decide⟩⟩) := expands_iff.2 (by decide +kernel)
  have hlater : Expands (FileStore.ofAnswers [("f", .ok "--go_out=gen\na.proto"),
      ("g", .ok "-Ib\nb.proto"), ("h", .ok "--go_opt=x\n@f")]).toFileSystem .builtin ["-", "@g"]
      ⟨["f"], ⟨[("go", ⟨"gen", none, none⟩)], by decide⟩⟩
      (.ok ⟨{ includeDirPaths := ["b"] }, ["-", "b.proto"]⟩,
        ⟨["f", "g"], ⟨[("go", ⟨"gen", none, none⟩)], by decide⟩⟩) :=
    expands_iff.2 (by decide +kernel)
  constructor
  · exact (expands_append_iff hv (by decide)).2 (.joined hfirst hlater)
  · exact (expands_append_iff hv (by decide)).2
      (.refusedLater hfirst (expands_iff.2 (by decide +kernel)))

end ProtocInvocation
