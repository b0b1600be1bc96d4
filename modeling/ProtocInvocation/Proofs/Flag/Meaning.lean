import Mathlib.Data.List.Forall2
import ProtocInvocation.Proofs.Flag.Name

/-!
# What long names mean

A long name spells a built-in flag, or it names a directive of a plugin, or neither, and never two
of these (`FlagName.means_iff`). Spellings of a built-in flag differ in hyphens and underscores only
(`FlagName.Respells`), and none of them names a directive: the one flag that has the tail of a
directive is set apart by name.
-/

namespace ProtocInvocation

/-- What a long name can mean. -/
inductive NameMeaning where
  | builtin (known : FlagDefinition)
  | directive (plugin : String) (kind : DirectiveKind)
  | unknown
  deriving DecidableEq, Repr

namespace FlagName

/-- Whether a character is a hyphen or an underscore. -/
def IsJoint (c : Char) : Prop :=
  c = '-' ∨ c = '_'

/-- Whether two names are spellings of one: they are the same but for hyphens and underscores. -/
def Respells (name other : String) : Prop :=
  List.Forall₂ (fun c d => c = d ∨ IsJoint c ∧ IsJoint d) name.toList other.toList

/-- Whether a name is that of a directive: that of a plugin with the tail of the kind behind it, and
no spelling of the flag for the descriptor set. -/
structure NamesDirective (name plugin : String) (kind : DirectiveKind) : Prop where
  eq_append : name = plugin ++ kind.tail
  plugin_ne : plugin ≠ ""
  not_respells : ¬ Respells name descriptorSetOut

/-- What a long name means. -/
inductive Means (name : String) : NameMeaning → Prop
  | builtin {known : FlagDefinition} : known ∈ FlagRegistry.builtin → Respells name known.long →
      Means name (.builtin known)
  | directive {plugin : String} {kind : DirectiveKind} : NamesDirective name plugin kind →
      Means name (.directive plugin kind)
  | unknown : (∀ known ∈ FlagRegistry.builtin, ¬ Respells name known.long) →
      (∀ plugin kind, ¬ NamesDirective name plugin kind) → Means name .unknown

variable {name plugin long : String} {kind : DirectiveKind} {known : FlagDefinition}

/-! ## Spellings -/

theorem Respells.refl (name : String) : Respells name name :=
  List.forall₂_same.2 fun _ _ => .inl rfl

theorem map_underscore_eq_iff {cs ds : List Char} (h : '-' ∉ ds) :
    cs.map (fun c => if c = '-' then '_' else c) = ds ↔
      List.Forall₂ (fun c d => c = d ∨ IsJoint c ∧ IsJoint d) cs ds := by
  induction cs generalizing ds with
  | nil => cases ds <;> simp
  | cons c cs ih =>
      cases ds with
      | nil => simp
      | cons d ds =>
          obtain ⟨hd, hds⟩ := not_or.1 (mt List.mem_cons.2 h)
          have hsame : (if c = '-' then '_' else c) = d ↔ c = d ∨ IsJoint c ∧ IsJoint d := by
            by_cases hc : c = '-'
            · simp [hc, IsJoint, hd, Ne.symm hd, eq_comm]
            · have : c = '_' ∧ d = '_' → c = d := fun ⟨h, h'⟩ => h.trans h'.symm
              simpa [hc, IsJoint, Ne.symm hd] using this
          rw [List.map_cons, List.cons.injEq, List.forall₂_cons, ih hds, hsame]

/-- The name in underscores is the same for all spellings. -/
theorem canonical_eq_iff (h : '-' ∉ long.toList) : canonical name = long ↔ Respells name long := by
  rw [Respells, ← map_underscore_eq_iff h, canonical, ← String.toList_inj, String.toList_ofList]

theorem canonical_eq_descriptorSetOut_iff :
    canonical name = descriptorSetOut ↔ Respells name descriptorSetOut :=
  canonical_eq_iff (by decide)

theorem equals_notMem_of_canonical (h : '=' ∉ (canonical name).toList) : '=' ∉ name.toList := by
  refine fun hm => h ?_
  rw [canonical, String.toList_ofList]
  exact List.mem_map_of_mem hm

theorem canonical_append_tail :
    canonical (plugin ++ kind.tail) = canonical plugin ++ kind.tail := by
  apply String.toList_inj.1
  cases kind <;> simp [canonical, DirectiveKind.tail]

/-! ## Names of directives -/

theorem ofName_eq_directive_iff_namesDirective :
    ofName name = .directive plugin kind ↔ NamesDirective name plugin kind := by
  rw [ofName_eq_directive_iff, ne_eq, ne_eq, canonical_eq_descriptorSetOut_iff]
  exact ⟨fun ⟨hn, hp, hd⟩ => ⟨hn, hp, hd⟩, fun ⟨hn, hp, hd⟩ => ⟨hn, hp, hd⟩⟩

theorem ofName_of_forall_not (h : ∀ plugin kind, ¬ NamesDirective name plugin kind) :
    ofName name = .flag (canonical name) := by
  cases hn : ofName name with
  | directive plugin kind =>
      exact absurd (ofName_eq_directive_iff_namesDirective.1 hn) (h plugin kind)
  | flag other =>
      rw [ofName] at hn
      split at hn
      · exact hn.symm
      split at hn
      · cases hn
      split at hn
      · cases hn
      · exact hn.symm

/-! ## Names of built-in flags -/

theorem builtin_spelling : ∀ known ∈ FlagRegistry.builtin,
    '-' ∉ known.long.toList ∧ '=' ∉ known.long.toList ∧ known.long ≠ "" := by
  decide +kernel

theorem builtin_long : ∀ known ∈ FlagRegistry.builtin,
    FlagRegistry.builtin.long? known.long = some known := by
  decide +kernel

/-- Only the flag for the descriptor set has the tail of a directive. -/
theorem builtin_tail : ∀ known ∈ FlagRegistry.builtin, ∀ kind ∈ [DirectiveKind.out, .opt],
    (Text.dropTail? kind.tail known.long).isSome → known.long = descriptorSetOut := by
  decide +kernel

theorem canonical_of_respells (hk : known ∈ FlagRegistry.builtin) (h : Respells name known.long) :
    canonical name = known.long :=
  (canonical_eq_iff (builtin_spelling known hk).1).2 h

theorem ne_empty_of_respells (hk : known ∈ FlagRegistry.builtin) (h : Respells name known.long) :
    name ≠ "" := by
  rintro rfl
  exact (builtin_spelling known hk).2.2 (canonical_of_respells hk h).symm

theorem equals_notMem_of_respells (hk : known ∈ FlagRegistry.builtin)
    (h : Respells name known.long) : '=' ∉ name.toList := by
  have he := (builtin_spelling known hk).2.1
  rw [← canonical_of_respells hk h] at he
  exact equals_notMem_of_canonical he

/-- No spelling of a built-in flag is the name of a directive. -/
theorem not_namesDirective_of_respells (hk : known ∈ FlagRegistry.builtin)
    (h : Respells name known.long) : ¬ NamesDirective name plugin kind := by
  rintro ⟨rfl, _, hd⟩
  have hlong : known.long = canonical plugin ++ kind.tail := by
    rw [← canonical_append_tail, canonical_of_respells hk h]
  have htail : (Text.dropTail? kind.tail known.long).isSome := by
    rw [Text.dropTail?_eq_some_iff.2 hlong]
    rfl
  have hkind : kind ∈ [DirectiveKind.out, .opt] := by cases kind <;> simp
  rw [builtin_tail known hk kind hkind htail] at h
  exact hd h

theorem ofName_of_respells (hk : known ∈ FlagRegistry.builtin) (h : Respells name known.long) :
    ofName name = .flag known.long := by
  rw [ofName_of_forall_not fun _ _ => not_namesDirective_of_respells hk h,
    canonical_of_respells hk h]

/-! ## Meanings -/

/-- The meaning of a long name, as it is found. -/
def meaning (name : String) : NameMeaning :=
  match ofName name with
  | .directive plugin kind => .directive plugin kind
  | .flag canonical => (FlagRegistry.builtin.long? canonical).elim .unknown .builtin

theorem long?_canonical_eq_none (h : ∀ known ∈ FlagRegistry.builtin, ¬ Respells name known.long) :
    FlagRegistry.builtin.long? (canonical name) = none := by
  refine List.find?_eq_none.2 fun known hk hm => h known hk ?_
  rw [FlagDefinition.matchesLong, decide_eq_true_eq] at hm
  exact (canonical_eq_iff (builtin_spelling known hk).1).1 hm.symm

theorem Means.meaning_eq {found : NameMeaning} (h : Means name found) : meaning name = found := by
  cases h with
  | builtin hk hr =>
      rw [meaning, ofName_of_respells hk hr]
      simp only
      rw [builtin_long _ hk]
      rfl
  | directive hd => rw [meaning, ofName_eq_directive_iff_namesDirective.2 hd]
  | unknown hk hd =>
      rw [meaning, ofName_of_forall_not hd]
      simp only
      rw [long?_canonical_eq_none hk]
      rfl

theorem exists_means (name : String) : ∃ found, Means name found := by
  by_cases hk : ∃ known ∈ FlagRegistry.builtin, Respells name known.long
  · obtain ⟨known, hk, hr⟩ := hk
    exact ⟨_, .builtin hk hr⟩
  by_cases hd : ∃ plugin kind, NamesDirective name plugin kind
  · obtain ⟨plugin, kind, hd⟩ := hd
    exact ⟨_, .directive hd⟩
  · exact ⟨_, .unknown (fun known hm hr => hk ⟨known, hm, hr⟩)
      fun plugin kind hn => hd ⟨plugin, kind, hn⟩⟩

/-- A long name has one meaning, which is the one that is found. -/
theorem means_iff {found : NameMeaning} : Means name found ↔ meaning name = found := by
  refine ⟨Means.meaning_eq, ?_⟩
  rintro rfl
  obtain ⟨found, h⟩ := exists_means name
  rwa [h.meaning_eq]

end FlagName

end ProtocInvocation
