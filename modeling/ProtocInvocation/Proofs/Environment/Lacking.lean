import ProtocInvocation.Proofs.Argument.Lacking
import ProtocInvocation.Proofs.Environment.Configured
import ProtocInvocation.Proofs.Expansion.Reading

/-!
# Values that are missing

A vector that lacks a value is found out when its tokens are read, and never when its flags are
bound or when what came of it is checked. So the flag whose value is missing is the last token of
the vector that was read last. Main statement: `Environment.missingValue_of_resolves`.
-/

namespace ProtocInvocation

variable {tokens : List String} {fault : Fault}

/-- Binding does not miss a value, so a vector that lacks one is found out by its tokens. -/
theorem OwnArguments.classify_of_read_missingValue {flag : String}
    (h : read .builtin tokens = .error (.missingValue flag)) :
    Argument.classify .builtin tokens = .error (.missingValue flag) := by
  rcases bind_eq_error_iff.1 h with h | ⟨found, hc, h⟩
  · exact h
  rcases bind_eq_error_iff.1 h with h | ⟨settings, _, h⟩
  · obtain ⟨a, ha, s, h⟩ := exists_of_foldlM_eq_error h
    obtain ⟨_, _, _, _, _, hf⟩ := Argument.isMisread_of_bind hc ha h
    cases hf
  · cases h

namespace Environment

variable {defaults : Defaults} {e : Expansion} {plugins : PluginTable}

/-- What is checked after an expansion has faults of its own. -/
theorem stage_of_ofExpansion (h : ofExpansion defaults e plugins = .error fault) :
    fault.stage = .checking := by
  simp only [ofExpansion, bind_eq_error_iff] at h
  rcases h with h | ⟨⟨⟩, _, h | ⟨⟨⟩, _, h | ⟨format, _, h⟩⟩⟩
  · obtain ⟨flag, rfl⟩ := exists_of_checkSupported h
    rfl
  · obtain ⟨plugin, rfl | rfl⟩ := exists_of_checkActionable h
    · rfl
    · rfl
  · simp only [Defaults.errorFormatOr] at h
    split at h
    · cases h
    · cases h
      rfl
  · split at h
    · cases h
      rfl
    · cases h

/-- If a flag is refused for want of a value, it is the last token of the vector that was read last,
in flag position, and a built-in flag or a directive that takes a value and has none in itself.
Whatever was found in a vector of tokens, binding refuses it only for a value that should be a truth
value and is none, so no value is missing there. -/
theorem missingValue_of_resolves (files : FileSystem) (defaults : Defaults) (tokens : List String) :
    (∀ flag, Resolves files defaults tokens (.error (.missingValue flag)) →
      ∃ after vector,
        Expands files .builtin tokens default (.error (.missingValue flag), after) ∧
        lastRead files tokens after = .ok vector ∧
        Argument.classify .builtin vector = .error (.missingValue flag) ∧
        Argument.EndsLacking vector flag) ∧
    ∀ vector found, Argument.classify .builtin vector = .ok found → ∀ a ∈ found, ∀ s fault,
      a.bind s = .error fault → a.IsMisread fault := by
  refine ⟨fun flag h => ?_, fun vector found hc a ha s fault h => Argument.isMisread_of_bind hc ha h⟩
  obtain ⟨⟨fault | e, after⟩, he, ho⟩ := h
  · obtain rfl := Except.error.inj ho
    obtain ⟨vector, hv, hr⟩ := he.read_lastRead rfl
    have hc := OwnArguments.classify_of_read_missingValue hr
    exact ⟨after, vector, he, hv, hc, Argument.endsLacking_of_classify hc⟩
  · cases stage_of_ofExpansion ho

/-- The value that is missing in a file is not looked for behind the reference to it, and a truth
value that is none is found out when it is bound. -/
theorem missingValue_of_resolves_nested :
    (Resolves (FileStore.ofAnswers [("f", .ok "a.proto\n--go_out\n")]).toFileSystem {}
        ["-Iinc", "@f", "b.proto"] (.error (.missingValue "--go_out")) ∧
      ∃ after, lastRead (FileStore.ofAnswers [("f", .ok "a.proto\n--go_out\n")]).toFileSystem
          ["-Iinc", "@f", "b.proto"] after = .ok ["a.proto", "--go_out"] ∧
        Argument.EndsLacking ["a.proto", "--go_out"] "--go_out") ∧
    (Argument.classify .builtin ["--include_imports=maybe"] =
        .ok [.flag .includeImports "--include_imports" (some "maybe")] ∧
      (Argument.flag .includeImports "--include_imports" (some "maybe")).bind default =
        .error (.invalidBool "--include_imports" "maybe") ∧
      (Argument.flag .includeImports "--include_imports" (some "maybe")).IsMisread
        (.invalidBool "--include_imports" "maybe")) := by
  have hr : Resolves (FileStore.ofAnswers [("f", .ok "a.proto\n--go_out\n")]).toFileSystem {}
      ["-Iinc", "@f", "b.proto"] (.error (.missingValue "--go_out")) :=
    resolves_iff.2 (by decide +kernel)
  have hc : Argument.classify .builtin ["--include_imports=maybe"] =
      .ok [.flag .includeImports "--include_imports" (some "maybe")] := by decide +kernel
  have hb : (Argument.flag .includeImports "--include_imports" (some "maybe")).bind default =
      .error (.invalidBool "--include_imports" "maybe") := by decide +kernel
  obtain ⟨hmissing, hmisread⟩ := missingValue_of_resolves
    (FileStore.ofAnswers [("f", .ok "a.proto\n--go_out\n")]).toFileSystem {}
    ["-Iinc", "@f", "b.proto"]
  obtain ⟨after, vector, he, hl, _, hends⟩ := hmissing _ hr
  have hafter : (expand (FileStore.ofAnswers [("f", .ok "a.proto\n--go_out\n")]) .builtin
      ["-Iinc", "@f", "b.proto"] default).2 = ⟨["f"], default⟩ := by decide +kernel
  rw [expands_iff.1 he] at hafter
  obtain rfl : after = ⟨["f"], default⟩ := hafter
  have hlines : lastRead (FileStore.ofAnswers [("f", .ok "a.proto\n--go_out\n")]).toFileSystem
      ["-Iinc", "@f", "b.proto"] ⟨["f"], default⟩ = .ok ["a.proto", "--go_out"] := by
    decide +kernel
  obtain rfl : vector = ["a.proto", "--go_out"] := Except.ok.inj (hl.symm.trans hlines)
  exact ⟨⟨hr, _, hl, hends⟩, hc, hb, hmisread _ _ hc _ List.mem_cons_self _ _ hb⟩

end Environment

end ProtocInvocation
