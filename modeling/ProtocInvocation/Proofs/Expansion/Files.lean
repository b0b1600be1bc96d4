import Mathlib.Control.Monad.Basic
import ProtocInvocation.Proofs.Argument.Place
import ProtocInvocation.Proofs.Expansion.Outcome

/-!
# The files of an expansion

Which files to compile an accepted expansion gives, said of tokens alone: the positional tokens of
its vector in order, with each reference replaced in its place by what the tokens in its file come
to (`ComesTo`). Main statement: `filePaths_of_expands`.
-/

namespace ProtocInvocation

variable {files : FileSystem} {registry : FlagRegistry} {tokens arguments : List String}
  {before after : ExpansionContext}

/-- What positional tokens come to, in order: a file to itself, and a reference to what the
positional tokens in its file come to. -/
inductive ComesTo (files : FileSystem) (registry : FlagRegistry) :
    List String → List String → Prop
  | done : ComesTo files registry [] []
  | file {argument : String} {arguments paths : List String} :
      reference? argument = none → ComesTo files registry arguments paths →
      ComesTo files registry (argument :: arguments) (argument :: paths)
  | reference {argument path : String} {arguments lines nested paths : List String} :
      reference? argument = some path → readArgumentFile files path = .ok lines →
      ComesTo files registry (Argument.positionalTokens registry lines) nested →
      ComesTo files registry arguments paths →
      ComesTo files registry (argument :: arguments) (nested ++ paths)

theorem ComesTo.unique {first second : List String} (hf : ComesTo files registry arguments first)
    (hs : ComesTo files registry arguments second) : first = second := by
  induction hf generalizing second with
  | done =>
      cases hs
      rfl
  | file hn _ ih =>
      cases hs with
      | file _ hl => rw [ih hl]
      | reference hr =>
          rw [hn] at hr
          cases hr
  | reference hr ht _ _ ihn ihl =>
      cases hs with
      | file hn =>
          rw [hn] at hr
          cases hr
      | reference hr' ht' hn' hl' =>
          rw [hr, Option.some.injEq] at hr'
          subst hr'
          rw [ht, Except.ok.injEq] at ht'
          subst ht'
          rw [ihn hn', ihl hl']

theorem ArgumentVector.own_positionals (v : ArgumentVector registry) :
    v.own.positionals = Argument.positionalTokens registry v.tokens := by
  obtain ⟨settings, _, he⟩ := v.ofArguments_eq
  rw [he]
  exact Argument.positionals_of_classify v.classify_tokens

namespace Branches

variable {branches : Branches registry}

theorem Unfold.comesTo (h : branches.Unfold files arguments) :
    ComesTo files registry arguments branches.expansion.filePaths := by
  induction h with
  | done => exact .done
  | file _ hr _ ih => exact .file hr ih
  | @reference _ _ _ vector _ _ hr ht _ _ ihn ihl =>
      rw [vector.own_positionals] at ihn
      exact .reference hr ht ihn ihl

theorem Unfold.of_mem_filePaths (h : branches.Unfold files arguments) :
    ∀ path ∈ branches.expansion.filePaths, path ≠ "" ∧ reference? path = none := by
  induction h with
  | done => exact nofun
  | file hne hr _ ih => exact List.forall_mem_cons.2 ⟨⟨hne, hr⟩, ih⟩
  | reference _ _ _ _ ihn ihl => exact List.forall_mem_append.2 ⟨ihn, ihl⟩

end Branches

theorem head?_ne_sigil_of_reference? {argument : String} (h : reference? argument = none) :
    argument.toList.head? ≠ some sigil := by
  intro hs
  obtain ⟨rest, hr⟩ := List.head?_eq_some_iff.1 hs
  have hsome : reference? argument = some (String.ofList rest) := by
    refine Text.dropLead?_eq_some_iff.2 (String.toList_inj.1 ?_)
    simpa using hr
  rw [h] at hsome
  cases hsome

/-- The files to compile of an accepted expansion are what the positional tokens of its vector come
to: each token stands in its place, as often as it was given, and no flag, directive or end of flags
moves it. None of them is empty or begins with the sigil. -/
theorem filePaths_of_expands {e : Expansion}
    (h : Expands files registry tokens before (.ok e, after)) :
    (∀ paths, ComesTo files registry (Argument.positionalTokens registry tokens) paths ↔
      paths = e.filePaths) ∧
    ∀ path ∈ e.filePaths, path ≠ "" ∧ path.toList.head? ≠ some sigil := by
  obtain ⟨tree, ht, _, rfl⟩ := expands_ok_iff.1 h
  have hc : ComesTo files registry (Argument.positionalTokens registry tokens)
      tree.expansion.filePaths := by
    rw [← ht.tokens_eq, ← tree.root.own_positionals]
    exact ht.unfold.comesTo
  refine ⟨fun paths => ⟨fun hp => hp.unique hc, fun hp => hp ▸ hc⟩, fun path hm => ?_⟩
  obtain ⟨hne, hr⟩ := ht.unfold.of_mem_filePaths path hm
  exact ⟨hne, head?_ne_sigil_of_reference? hr⟩

/-- A file is given twice by the vector and a file of arguments, and a reference is the value of a
directive. -/
theorem filePaths_of_expands_repeated :
    Expands (FileStore.ofAnswers [("f", .ok "b.proto\n--\n-x\n@g"),
        ("g", .ok "a.proto\n-Iinc\na.proto")]).toFileSystem .builtin
      ["a.proto", "-I", "c.proto", "@f", "--go_out", "@g", "d.proto"] default
      (.ok ⟨{ includeDirPaths := ["c.proto", "inc"] },
        ["a.proto", "b.proto", "-x", "a.proto", "a.proto", "d.proto"]⟩,
        ⟨["f", "g"], ⟨[("go", ⟨"@g", none, none⟩)], List.pairwise_singleton _ _⟩⟩) ∧
      ∀ paths, ComesTo (FileStore.ofAnswers [("f", .ok "b.proto\n--\n-x\n@g"),
          ("g", .ok "a.proto\n-Iinc\na.proto")]).toFileSystem .builtin
        ["a.proto", "@f", "d.proto"] paths ↔
          paths = ["a.proto", "b.proto", "-x", "a.proto", "a.proto", "d.proto"] := by
  have h : Expands (FileStore.ofAnswers [("f", .ok "b.proto\n--\n-x\n@g"),
      ("g", .ok "a.proto\n-Iinc\na.proto")]).toFileSystem .builtin
      ["a.proto", "-I", "c.proto", "@f", "--go_out", "@g", "d.proto"] default
      (.ok ⟨{ includeDirPaths := ["c.proto", "inc"] },
        ["a.proto", "b.proto", "-x", "a.proto", "a.proto", "d.proto"]⟩,
        ⟨["f", "g"], ⟨[("go", ⟨"@g", none, none⟩)], List.pairwise_singleton _ _⟩⟩) :=
    expands_iff.2 (by decide +kernel)
  have hp : Argument.positionalTokens .builtin
      ["a.proto", "-I", "c.proto", "@f", "--go_out", "@g", "d.proto"] =
        ["a.proto", "@f", "d.proto"] := by decide +kernel
  exact ⟨h, hp ▸ (filePaths_of_expands h).1⟩

end ProtocInvocation
