import ProtocInvocation.Proofs.Expansion.Growth

/-!
# Files an expansion does not refer to

The visited paths say which files an expansion has looked at: in a file system that answers alike at
those that it visits it goes the same way, to the same value or fault (`Expanding.CarriesOver`).
Main statement: `expands_of_agreesBetween`.
-/

namespace ProtocInvocation

variable {α β : Type} {files other : FileSystem} {registry : FlagRegistry} {tokens : List String}
  {before between after last : ExpansionContext}

/-- A file system answers like another at each path that was visited between two contexts. -/
def FileSystem.AgreesBetween (files other : FileSystem) (before after : ExpansionContext) : Prop :=
  ∀ path ∈ after.visited, path ∉ before.visited → other.read path = files.read path

instance : Decidable (files.AgreesBetween other before after) :=
  inferInstanceAs (Decidable (∀ path ∈ after.visited, path ∉ before.visited →
    other.read path = files.read path))

namespace FileSystem.AgreesBetween

theorem left (h : files.AgreesBetween other before last) (hw : after.Within last) :
    files.AgreesBetween other before after :=
  fun path hm => h path (hw.visited hm)

theorem right (h : files.AgreesBetween other before after) (hw : before.Within between) :
    files.AgreesBetween other between after :=
  fun path hm hn => h path hm fun hb => hn (hw.visited hb)

end FileSystem.AgreesBetween

/-! ## Steps -/

namespace Expanding

/-- A step in one file system goes the same way as `elsewhere` in another that answers alike at what
it visits. -/
structure CarriesOver (files other : FileSystem) (step elsewhere : Expanding α) : Prop where
  grows : Grows step
  run : ∀ {before result after}, step.run.run before = some (result, after) →
    files.AgreesBetween other before after → elsewhere.run.run before = some (result, after)

namespace CarriesOver

theorem unending (elsewhere : Expanding α) :
    CarriesOver files other Expanding.unending elsewhere where
  grows := .unending
  run h _ := by cases h

/-- A step that reads no file. -/
theorem refl {step : Expanding α} (h : Grows step) : CarriesOver files other step step where
  grows := h
  run h _ := h

theorem bind {step elsewhere : Expanding α} {next nextElsewhere : α → Expanding β}
    (h : CarriesOver files other step elsewhere)
    (hn : ∀ a, CarriesOver files other (next a) (nextElsewhere a)) :
    CarriesOver files other (step >>= next) (elsewhere >>= nextElsewhere) where
  grows := h.grows.bind fun a => (hn a).grows
  run {before result after} hr ha := by
    rw [run_bind_eq_some_iff] at hr ⊢
    rcases hr with ⟨fault, between, hs, he⟩ | ⟨a, between, hs, hr⟩
    · cases he
      exact .inl ⟨fault, after, h.run hs ha, rfl⟩
    · have hs' := h.run hs (ha.left ((hn a).grows _ _ _ hr))
      exact .inr ⟨a, between, hs', (hn a).run hr (ha.right (h.grows _ _ _ hs))⟩

/-- The file of a reference is read only if its path could be noted, and then it is one of those
where the file systems agree. -/
theorem reference (path : String) {next nextElsewhere : List String → Expanding β}
    (hn : ∀ lines, CarriesOver files other (next lines) (nextElsewhere lines)) :
    CarriesOver files other
      (visit path >>= fun _ => ofExcept (readArgumentFile files path) >>= next)
      (visit path >>= fun _ => ofExcept (readArgumentFile other path) >>= nextElsewhere) where
  grows := .bind (.visit path) fun _ => .bind (.ofExcept _) fun lines => (hn lines).grows
  run {before result after} hr ha := by
    rw [run_bind_eq_some_iff] at hr ⊢
    rcases hr with hr | ⟨_, between, hv, hr⟩
    · exact .inl hr
    have hrest : CarriesOver files other (ofExcept (readArgumentFile files path) >>= next)
        (ofExcept (readArgumentFile files path) >>= nextElsewhere) := .bind (.refl (.ofExcept _)) hn
    have hnew : path ∉ before.visited ∧ path ∈ between.visited := by
      rw [run_visit] at hv
      split at hv
      · cases hv
      · cases hv
        exact ⟨‹_›, List.mem_append_right _ (List.mem_singleton_self path)⟩
    have hread : readArgumentFile other path = readArgumentFile files path := by
      rw [readArgumentFile, readArgumentFile,
        ha path ((hrest.grows _ _ _ hr).visited hnew.2) hnew.1]
    rw [hread]
    exact .inr ⟨_, between, hv, hrest.run hr (ha.right (Grows.visit path _ _ _ hv))⟩

end CarriesOver

end Expanding

/-! ## Expansions -/

open Expanding in
theorem carriesOver_expandWithin (depth : Nat) : CarriesOver files other
    (expandWithin files registry depth tokens) (expandWithin other registry depth tokens) :=
  expandWithin_induction₂ other (motive := CarriesOver files other) .unending
    (fun _ => .refl (.pure _)) .bind (fun _ => .refl (.ofExcept _))
    (fun own => .refl (.record own.assignments)) (.refl (.ofExcept _))
    (fun path _ _ hn => .reference path hn) (Nat.le_refl depth) tokens

/-- An expansion depends on no file but those at the paths that it newly visits: where these are the
same, so are its result, whichever it is, and its context. If a vector is refused for its own flags,
directives or plugin paths, then it is so whatever the files are. -/
theorem expands_of_agreesBetween {result : Except Fault Expansion}
    (h : Expands files registry tokens before (result, after)) :
    (∀ other, files.AgreesBetween other before after →
      Expands other registry tokens before (result, after)) ∧
    ∀ fault refused, RefusedItself registry tokens before fault refused →
      (result, after) = (.error fault, refused) ∧
        ∀ other, Expands other registry tokens before (result, after) := by
  constructor
  · intro other ha
    obtain ⟨depth, hr⟩ := h
    exact ⟨depth, (carriesOver_expandWithin depth).run hr ha⟩
  · intro fault refused hr
    have he := h.unique (hr.expands files)
    exact ⟨he, fun other => he ▸ hr.expands other⟩

/-- An expansion that fails in the second file stops before a third, which may hold anything or not
be there. A vector with a repeated directive is refused before its files are looked at. -/
theorem expands_of_agreesBetween_unread :
    Expands (FileStore.ofAnswers [("f", .ok "--go_out=gen\n@g"), ("g", .ok "-Iinc\n@./f\n@f"),
        ("./f", .ok "a.proto")]).toFileSystem .builtin ["@f", "@h"] default
        (.error (.recursiveReference "f"), ⟨["f", "g", "./f"],
          ⟨[("go", ⟨"gen", none, none⟩)], by decide⟩⟩) ∧
      Expands (FileStore.ofAnswers [("f", .ok "--go_out=gen\n@g"), ("g", .ok "-Iinc\n@./f\n@f"),
        ("./f", .ok "a.proto"), ("h", .ok "--go_out=dist")]).toFileSystem .builtin
        ["@f", "@h"] default
        (.error (.recursiveReference "f"), ⟨["f", "g", "./f"],
          ⟨[("go", ⟨"gen", none, none⟩)], by decide⟩⟩) ∧
      ∀ other, Expands other .builtin ["--go_opt=x", "@f", "--go_opt=y"] default
        (.error (.duplicateOpt "go"), default) := by
  have h : Expands (FileStore.ofAnswers [("f", .ok "--go_out=gen\n@g"),
      ("g", .ok "-Iinc\n@./f\n@f"), ("./f", .ok "a.proto")]).toFileSystem .builtin
      ["@f", "@h"] default
      (.error (.recursiveReference "f"), ⟨["f", "g", "./f"],
        ⟨[("go", ⟨"gen", none, none⟩)], by decide⟩⟩) :=
    expands_iff.2 (by decide +kernel)
  have h' : Expands (FileStore.ofAnswers []).toFileSystem .builtin
      ["--go_opt=x", "@f", "--go_opt=y"] default (.error (.duplicateOpt "go"), default) :=
    expands_iff.2 (by decide +kernel)
  have hread : OwnArguments.read .builtin ["--go_opt=x", "@f", "--go_opt=y"] =
      .ok ⟨default, .ofList [⟨"go", .opt, "x"⟩, ⟨"go", .opt, "y"⟩], ["@f"]⟩ := by decide +kernel
  refine ⟨h, (expands_of_agreesBetween h).1 _ ?_,
    ((expands_of_agreesBetween h').2 _ _ (.assigning hread rfl)).2⟩
  decide +kernel

end ProtocInvocation
