import ProtocInvocation.Flag.Name

/-!
# Which names are those of directives

A long name is that of a plugin directive exactly if it is a plugin's name followed by the tail of
the kind, unless it spells the flag for the descriptor set (`FlagName.ofName_eq_directive_iff`).
-/

namespace ProtocInvocation

variable {name plugin : String} {kind : DirectiveKind}

theorem DirectiveKind.eq_of_append_tail {other : DirectiveKind} {first second : String}
    (h : first ++ kind.tail = second ++ other.tail) : first = second ∧ kind = other := by
  have hlength : kind.tail.toList.length = other.tail.toList.length := by
    cases kind <;> cases other <;> simp [tail]
  have hlist : first.toList ++ kind.tail.toList = second.toList ++ other.tail.toList := by
    simpa using congrArg String.toList h
  obtain ⟨hfirst, htail⟩ := List.append_inj' hlist hlength
  refine ⟨String.toList_inj.1 hfirst, ?_⟩
  cases kind <;> cases other <;> simp_all [tail]

namespace FlagName

theorem plugin?_eq_some_iff :
    plugin? name kind = some plugin ↔ name = plugin ++ kind.tail ∧ plugin ≠ "" := by
  simp [plugin?, Option.filter_eq_some_iff, Text.dropTail?_eq_some_iff]

theorem plugin?_eq_none_of_ne {other : DirectiveKind} (h : plugin? name kind = some plugin)
    (hk : kind ≠ other) : plugin? name other = none := by
  cases ho : plugin? name other with
  | none => rfl
  | some second =>
      have hname := (plugin?_eq_some_iff.1 h).1.symm.trans (plugin?_eq_some_iff.1 ho).1
      exact absurd (DirectiveKind.eq_of_append_tail hname).2 hk

/-- A directive is named by the plugin's name with the tail of the kind behind it. -/
theorem ofName_eq_directive_iff : ofName name = .directive plugin kind ↔
    name = plugin ++ kind.tail ∧ plugin ≠ "" ∧ canonical name ≠ descriptorSetOut := by
  constructor
  · intro h
    rw [ofName] at h
    split at h
    · cases h
    rename_i hc
    split at h
    · rename_i hout
      cases h
      obtain ⟨hname, hplugin⟩ := plugin?_eq_some_iff.1 hout
      exact ⟨hname, hplugin, hc⟩
    split at h
    · rename_i hopt
      cases h
      obtain ⟨hname, hplugin⟩ := plugin?_eq_some_iff.1 hopt
      exact ⟨hname, hplugin, hc⟩
    · cases h
  · rintro ⟨hname, hplugin, hc⟩
    have hsome := plugin?_eq_some_iff.2 ⟨hname, hplugin⟩
    rw [ofName, if_neg hc]
    cases kind with
    | out => rw [hsome]
    | opt =>
        have hnone : plugin? name .out = none := plugin?_eq_none_of_ne hsome nofun
        rw [hnone, hsome]

/-- No directive for options has the name of the flag for the descriptor set. -/
theorem canonical_opt_ne : canonical (plugin ++ DirectiveKind.opt.tail) ≠ descriptorSetOut := by
  intro h
  have hlist : plugin.toList.map (fun c => if c = '-' then '_' else c) ++ "_opt".toList =
      "descriptor_set".toList ++ "_out".toList := by
    simpa [canonical, DirectiveKind.tail, descriptorSetOut] using congrArg String.toList h
  obtain ⟨_, htail⟩ := List.append_inj' hlist (by simp)
  simp at htail

end FlagName

end ProtocInvocation
