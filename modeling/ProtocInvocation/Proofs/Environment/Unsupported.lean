import ProtocInvocation.Proofs.Environment.Resolution
import ProtocInvocation.Proofs.Expansion.Settings

/-!
# Unsupported flags

An unsupported flag is refused for what it leaves in its slot, after all vectors were merged. Every
path for `descriptor_set_in` leaves something, but an empty `encode` or `decode` takes the trace of
the earlier ones in its vector away. Main statement: `unsupported_of_resolves`.
-/

namespace ProtocInvocation

variable {files : FileSystem} {registry : FlagRegistry} {defaults : Defaults} {tokens : List String}
  {env : Environment} {s : Settings} {f : Field}

/-- The fields of the flags that are refused. -/
def FlagRegistry.unsupportedFields (registry : FlagRegistry) : List Field :=
  (registry.filter (·.unsupported.isSome)).map FlagDefinition.field

theorem FlagRegistry.unsupportedFields_builtin : builtin.unsupportedFields =
    [.encode, .decode, .decodeRaw, .descriptorSetIn] := rfl

theorem checkSupported_eq_ok_iff : checkSupported registry s = .ok () ↔
    ∀ f ∈ registry.unsupportedFields, s.get f = f.shape.zero := by
  have hnone : checkSupported registry s = .ok () ↔ registry.unsupported? s = none := by
    rw [checkSupported]
    cases registry.unsupported? s <;> simp
  rw [hnone, FlagRegistry.unsupported?, List.findSome?_eq_none_iff, FlagRegistry.unsupportedFields]
  simp only [List.forall_mem_map, List.mem_filter, Settings.isSet, decide_eq_true_eq, and_imp]
  refine forall₂_congr fun flag _ => ?_
  by_cases hs : s.get flag.field = flag.field.shape.zero
  · simp [hs]
  · simp [hs]

theorem ExpansionTree.get_settings_eq_zero_iff {tree : ExpansionTree registry} :
    tree.expansion.settings.get f = f.shape.zero ↔
      ∀ v ∈ tree.vectors, f.shape.received (v.occurrences f) = f.shape.zero := by
  rw [tree.get_settings_expansion, Shape.overall_eq_zero_iff, List.forall_mem_map]

namespace ArgumentVector

variable {v : ArgumentVector registry}

/-- A vector leaves no trace in the slots of the unsupported flags: the last value of each, if any,
is empty or not true, and there is no path to read descriptors from. -/
structure Untraced (v : ArgumentVector registry) : Prop where
  encode : ∀ value, (v.occurrences .encode).getLast? = some value → value = some ""
  decode : ∀ value, (v.occurrences .decode).getLast? = some value → value = some ""
  decodeRaw : ∀ value, (v.occurrences .decodeRaw).getLast? = some value →
    ∃ text, value = some text ∧ readBool? text ≠ some true
  descriptorSetIn : v.occurrences .descriptorSetIn = []

theorem received_list_eq_nil_iff (hf : f.shape ≠ .flag) :
    Shape.list.received (v.occurrences f) = [] ↔ v.occurrences f = [] := by
  rw [Shape.received_list_eq_nil_iff]
  constructor
  · intro h
    refine List.eq_nil_iff_forall_not_mem.2 fun value hm => ?_
    exact none_notMem_occurrences v.foldlM_bind hf (h value hm ▸ hm)
  · intro h value hm
    rw [h] at hm
    cases hm

theorem received_text_eq_empty_iff (hf : f.shape ≠ .flag) :
    Shape.text.received (v.occurrences f) = "" ↔
      ∀ value, (v.occurrences f).getLast? = some value → value = some "" := by
  rw [Shape.received_text_eq_empty_iff]
  refine forall₂_congr fun value hl => or_iff_right ?_
  rintro rfl
  exact none_notMem_occurrences v.foldlM_bind hf (List.mem_of_getLast? hl)

theorem untraced_iff : v.Untraced ↔ ∀ f ∈ FlagRegistry.builtin.unsupportedFields,
    f.shape.received (v.occurrences f) = f.shape.zero := by
  have hencode := received_text_eq_empty_iff (v := v) (f := .encode) nofun
  have hdecode := received_text_eq_empty_iff (v := v) (f := .decode) nofun
  have hraw : Shape.flag.received (v.occurrences .decodeRaw) = false ↔ _ :=
    Shape.received_flag_eq_false_iff
  have hin := received_list_eq_nil_iff (v := v) (f := .descriptorSetIn) nofun
  rw [FlagRegistry.unsupportedFields_builtin, List.forall_mem_cons, List.forall_mem_cons,
    List.forall_mem_cons, List.forall_mem_singleton]
  constructor
  · intro h
    exact ⟨hencode.2 h.encode, hdecode.2 h.decode, hraw.2 h.decodeRaw, hin.2 h.descriptorSetIn⟩
  · rintro ⟨he, hd, hr, hi⟩
    exact ⟨hencode.1 he, hdecode.1 hd, hraw.1 hr, hin.1 hi⟩

theorem eq_nil_of_last_empty {values : List (Option String)}
    (hl : ∀ value, values.getLast? = some value → value = some "") (he : some "" ∉ values) :
    values = [] := by
  cases h : values.getLast? with
  | none => exact List.getLast?_eq_none_iff.1 h
  | some value =>
      obtain rfl := hl value h
      exact absurd (List.mem_of_getLast? h) he

end ArgumentVector

theorem checkSupported_expansion_iff {tree : ExpansionTree .builtin} :
    checkSupported .builtin tree.expansion.settings = .ok () ↔ ∀ v ∈ tree.vectors, v.Untraced := by
  rw [checkSupported_eq_ok_iff]
  constructor
  · intro h v hv
    exact ArgumentVector.untraced_iff.2 fun f hf => tree.get_settings_eq_zero_iff.1 (h f hf) v hv
  · intro h f hf
    exact tree.get_settings_eq_zero_iff.2 fun v hv => ArgumentVector.untraced_iff.1 (h v hv) f hf

namespace Environment

/-- No vector of an accepted tree has a path to read descriptors from, and the last type that it
names to encode or to decode, if any, is empty. So none of the three occurs in the tree exactly if
no vector names an empty type. -/
theorem unsupported_of_resolves (h : Resolves files defaults tokens (.ok env)) :
    ∃ tree : ExpansionTree .builtin, tree.IsOf files tokens ∧ (∀ v ∈ tree.vectors, v.Untraced) ∧
      ((∀ v ∈ tree.vectors, ∀ f ∈ [Field.encode, .decode, .descriptorSetIn],
          v.occurrences f = []) ↔
        ∀ v ∈ tree.vectors, ∀ f ∈ [Field.encode, .decode], some "" ∉ v.occurrences f) := by
  obtain ⟨tree, after, ht, _, ho⟩ := exists_of_resolves h
  have huntraced := checkSupported_expansion_iff.1 (ofExpansion_eq_ok_iff.1 ho).1
  refine ⟨tree, ht, huntraced, ?_⟩
  constructor
  · intro hnone v hv f hf
    rw [hnone v hv f (List.mem_append_left [Field.descriptorSetIn] hf)]
    exact List.not_mem_nil
  · intro hempty v hv f hf
    simp only [List.mem_cons, List.not_mem_nil, or_false] at hf
    rcases hf with rfl | rfl | rfl
    · have hlast := (huntraced v hv).encode
      exact ArgumentVector.eq_nil_of_last_empty hlast (hempty v hv .encode (by simp))
    · have hlast := (huntraced v hv).decode
      exact ArgumentVector.eq_nil_of_last_empty hlast (hempty v hv .decode (by simp))
    · exact (huntraced v hv).descriptorSetIn

/-- An empty type at last hides a type to encode, and an empty type to decode hides itself. -/
theorem unsupported_of_resolves_emptied :
    ∃ env, Resolves (FileStore.ofAnswers [("f", .ok "--decode=")]).toFileSystem {}
        ["--encode=pkg.Msg", "--encode=", "@f", "a.proto"] (.ok env) ∧
      ∃ tree : ExpansionTree .builtin,
        tree.IsOf (FileStore.ofAnswers [("f", .ok "--decode=")]).toFileSystem
          ["--encode=pkg.Msg", "--encode=", "@f", "a.proto"] ∧
        tree.root.occurrences .encode = [some "pkg.Msg", some ""] ∧
        ∀ v ∈ tree.vectors, v.Untraced := by
  have hplugins : (resolve (.ofAnswers [("f", .ok "--decode=")]) {}
      ["--encode=pkg.Msg", "--encode=", "@f", "a.proto"]).map Environment.plugins =
        .ok default := by decide +kernel
  obtain ⟨env, h, _⟩ := exists_resolves_of_plugins hplugins
  obtain ⟨tree, ht, hu, _⟩ := unsupported_of_resolves h
  refine ⟨env, h, tree, ht, ?_, hu⟩
  have hroot : Argument.classify .builtin ["--encode=pkg.Msg", "--encode=", "@f", "a.proto"] =
      .ok [.flag .encode "--encode" (some "pkg.Msg"), .flag .encode "--encode" (some ""),
        .positional "@f", .positional "a.proto"] := by decide +kernel
  have hc := tree.root.classify_tokens
  rw [ht.tokens_eq, hroot] at hc
  rw [ArgumentVector.occurrences, ← Except.ok.inj hc]
  rfl

end Environment

end ProtocInvocation
