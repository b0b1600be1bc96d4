import ProtocInvocation.Proofs.Argument.Place
import ProtocInvocation.Proofs.Plugin.Directives
import ProtocInvocation.Proofs.Plugin.Recording

/-!
# Which part of an expansion finds a fault

Reading a vector, making its assignments, following its references and checking what came of it each
have faults of their own (`Fault.stage`), so the fault alone tells how far an expansion got.
-/

namespace ProtocInvocation

variable {registry : FlagRegistry} {tokens : List String} {fault : Fault}

/-- The parts of an expansion, in order. -/
inductive Stage where
  | reading
  | assigning
  | referring
  | checking
  deriving DecidableEq, Repr

/-- The part of an expansion that finds a fault. -/
def Fault.stage : Fault → Stage
  | unknownFlag _ | missingValue _ | invalidBool .. => .reading
  | ambiguousOut .. | duplicateOut _ | duplicateOpt _ | emptyPluginPath | notPluginName _
  | duplicatePluginPath _ => .assigning
  | emptyArgument | recursiveReference _ | argumentFile .. => .referring
  | optWithoutOut _ | pathWithoutOut _ | unsupportedFeature _ | invalidErrorFormat _
  | noInputFiles => .checking

/-! ## Reading -/

theorem Shape.stage_of_receive {shape : Shape} {flag : String} {value : Option String}
    {held : shape.Value} (h : shape.receive flag value held = .error fault) :
    fault.stage = .reading := by
  cases shape with
  | list =>
      cases value with
      | none =>
          cases h
          rfl
      | some text => cases h
  | flag =>
      cases value with
      | none => cases h
      | some text =>
          simp only [receive] at h
          split at h
          · cases h
          · cases h
            rfl
  | text =>
      cases value with
      | none =>
          cases h
          rfl
      | some text => cases h

namespace Argument

theorem stage_of_readToken {token : String} (h : readToken registry token = .error fault) :
    fault.stage = .reading := by
  obtain ⟨spelling, rfl⟩ := exists_unknownFlag_of_readToken h
  rfl

theorem stage_of_classify (h : classify registry tokens = .error fault) :
    fault.stage = .reading := by
  fun_induction classify registry tokens with
  | case1 => cases h
  | case2 token tokens fault' hr =>
      cases h
      exact stage_of_readToken hr
  | case3 => cases h
  | case4 token tokens found hr ih => exact ih (map_eq_error_iff.1 h)
  | case5 =>
      cases h
      rfl
  | case6 token found last hr value tokens ih => exact ih (map_eq_error_iff.1 h)

theorem stage_of_bind {s : Settings} {a : Argument} (h : a.bind s = .error fault) :
    fault.stage = .reading := by
  cases a with
  | directive d => cases h
  | positional text => cases h
  | flag field spelling value =>
      exact Shape.stage_of_receive (map_eq_error_iff.1 h)

end Argument

theorem OwnArguments.stage_of_read (h : read registry tokens = .error fault) :
    fault.stage = .reading := by
  rcases bind_eq_error_iff.1 h with h | ⟨arguments, _, h⟩
  · exact Argument.stage_of_classify h
  rcases bind_eq_error_iff.1 h with h | ⟨settings, _, h⟩
  · obtain ⟨a, _, s, h⟩ := exists_of_foldlM_eq_error h
    exact Argument.stage_of_bind h
  · cases h

/-! ## Assigning -/

theorem PluginPart.stage_duplicate (part : PluginPart) (plugin : String) :
    (part.duplicate plugin).stage = .assigning := by
  cases part with
  | out => rfl
  | opt => rfl
  | path => rfl

theorem stage_of_mem_outAssignments {plugin value : String}
    (h : .error fault ∈ outAssignments plugin value) : fault.stage = .assigning := by
  simp only [outAssignments] at h
  split at h
  · rename_i hs
    obtain rfl := Except.error.inj (List.mem_singleton.1 h)
    simp only [splitOut] at hs
    split at hs
    · cases hs
    · cases hs
    · cases hs
      rfl
  · simp at h
  · simp at h

theorem Directive.stage_of_mem_assignments {d : Directive} (h : .error fault ∈ d.assignments) :
    fault.stage = .assigning := by
  obtain ⟨plugin, kind, value⟩ := d
  cases kind with
  | out => exact stage_of_mem_outAssignments h
  | opt => cases List.mem_singleton.1 h

theorem DirectiveLog.stage_of_mem_assignments {log : DirectiveLog}
    (h : .error fault ∈ log.assignments) : fault.stage = .assigning := by
  obtain ⟨part, plugin, he⟩ | ⟨d, hm⟩ := exists_of_mem_assignments h
  · obtain rfl := Except.error.inj he
    exact part.stage_duplicate plugin
  · exact Directive.stage_of_mem_assignments hm

theorem stage_of_pathAssignment {value : String} (h : pathAssignment value = .error fault) :
    fault.stage = .assigning := by
  simp only [pathAssignment] at h
  split at h
  · cases h
    rfl
  split at h
  · cases h
  · cases h
    rfl

theorem OwnArguments.stage_of_mem_assignments {own : OwnArguments}
    (h : .error fault ∈ own.assignments) : fault.stage = .assigning := by
  rcases List.mem_append.1 h with h | h
  · exact DirectiveLog.stage_of_mem_assignments h
  · obtain ⟨value, _, hv⟩ := List.mem_map.1 h
    exact stage_of_pathAssignment hv

theorem PluginTable.stage_of_record {table : PluginTable}
    {assignments : List (Except Fault Assignment)}
    (ha : ∀ fault, .error fault ∈ assignments → fault.stage = .assigning)
    (h : (table.record assignments).1 = .error fault) : fault.stage = .assigning := by
  have hr : table.record assignments = (.error fault, (table.record assignments).2) :=
    Prod.ext h rfl
  obtain ⟨earlier, x, later, rfl, -, hx⟩ := record_eq_error_iff.1 hr
  rcases hx with rfl | ⟨a, rfl, hrefused⟩
  · exact ha _ (List.mem_append_right _ List.mem_cons_self)
  · obtain ⟨-, rfl⟩ := assign_eq_error_iff.1 hrefused
    exact PluginPart.stage_duplicate _ _

theorem OwnArguments.stage_of_record {own : OwnArguments} {table : PluginTable}
    (h : (table.record own.assignments).1 = .error fault) : fault.stage = .assigning :=
  PluginTable.stage_of_record (fun _ hm => stage_of_mem_assignments hm) h

end ProtocInvocation
