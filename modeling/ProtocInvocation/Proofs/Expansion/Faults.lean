import ProtocInvocation.Proofs.Argument.Faults
import ProtocInvocation.Proofs.Expansion.Outcome

/-!
# Faults of an expansion

An expansion reads, assigns and refers, and whatever fault it ends with comes from one of these.
What came of it is checked afterwards. Main statement: `Expands.stage_ne_checking`.
-/

namespace ProtocInvocation

variable {α β : Type} {files : FileSystem} {registry : FlagRegistry} {tokens : List String}

/-! ## Steps -/

namespace Expanding

/-- Whatever fault the step ends with, no check finds it. -/
def Unchecked (step : Expanding α) : Prop :=
  ∀ before fault after, step.run.run before = some (.error fault, after) → fault.stage ≠ .checking

namespace Unchecked

theorem unending : Unchecked (Expanding.unending : Expanding α) := by
  intro before fault after h
  cases h

theorem ofExcept {result : Except Fault α}
    (h : ∀ fault, result = .error fault → fault.stage ≠ .checking) :
    Unchecked (Expanding.ofExcept result) := by
  intro before fault after hr
  cases hr
  exact h fault rfl

theorem pure (a : α) : Unchecked (Pure.pure a : Expanding α) := by
  intro before fault after h
  cases h

theorem visit (path : String) : Unchecked (Expanding.visit path) := by
  intro before fault after h
  rw [run_visit] at h
  split at h
  · cases h
    nofun
  · cases h

theorem bind {step : Expanding α} {next : α → Expanding β} (h : Unchecked step)
    (hn : ∀ a, Unchecked (next a)) : Unchecked (step >>= next) := by
  intro before fault after hr
  rcases run_bind_eq_error_iff.1 hr with hr | ⟨a, between, _, hr⟩
  · exact h _ _ _ hr
  · exact hn a _ _ _ hr

end Unchecked

end Expanding

open Expanding

theorem OwnArguments.unchecked_record (own : OwnArguments) :
    Unchecked (record own.assignments) := by
  intro before fault after h
  rw [run_record, Option.some.injEq, Prod.mk.injEq] at h
  rw [stage_of_record h.1]
  nofun

theorem stage_of_readArgumentFile {path : String} {fault : Fault}
    (h : readArgumentFile files path = .error fault) : fault.stage = .referring := by
  simp only [readArgumentFile] at h
  split at h
  · cases h
  · cases h
    rfl

/-- What is left to check afterwards is not refused by the expansion itself. -/
theorem Expands.stage_ne_checking {before after : ExpansionContext} {fault : Fault}
    (h : Expands files registry tokens before (.error fault, after)) :
    fault.stage ≠ .checking := by
  obtain ⟨depth, h⟩ := h
  have hunchecked : Unchecked (expandWithin files registry depth tokens) := by
    refine expandWithin_induction (motive := Unchecked) .unending .pure .bind
      (fun tokens => .ofExcept fun fault he => ?_) OwnArguments.unchecked_record
      (.ofExcept fun fault he => ?_) .visit (fun path => .ofExcept fun fault he => ?_) depth tokens
    · rw [OwnArguments.stage_of_read he]
      nofun
    · cases he
      nofun
    · rw [stage_of_readArgumentFile he]
      nofun
  exact hunchecked _ _ _ h

end ProtocInvocation
