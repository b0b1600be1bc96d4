import ProtocInvocation.Argument.Basic
import ProtocInvocation.Fallible

/-!
# Where positional arguments come from

A positional argument is a token of its vector, taken as it stands: no other reading of a token
yields one.
-/

namespace ProtocInvocation

variable {registry : FlagRegistry} {token text : String} {tokens : List String}
  {found : List Argument} {reading : TokenReading}

/-- The arguments that a token gives by itself. -/
def TokenReading.arguments : TokenReading → List Argument
  | endOfFlags => []
  | complete found | awaiting found _ => found

namespace Argument

theorem positional_ne_complete {last : PendingArgument} {value : String} :
    positional text ≠ last.complete value := by
  cases last <;> simp [PendingArgument.complete]

theorem positional_notMem_ofPending {last : PendingArgument} {inline : Option String} :
    positional text ∉ (TokenReading.ofPending last inline).arguments := by
  cases inline <;> simp [TokenReading.ofPending, TokenReading.arguments, positional_ne_complete]

theorem positional_notMem_readNamed {name : String} {inline : Option String}
    (h : readNamed registry name inline = .ok reading) : positional text ∉ reading.arguments := by
  simp only [readNamed] at h
  split at h
  · rw [← Except.ok.inj h]
    exact positional_notMem_ofPending
  split at h
  · simp at h
  split at h
  · rw [← Except.ok.inj h]
    simp [TokenReading.arguments]
  · rw [← Except.ok.inj h]
    exact positional_notMem_ofPending

theorem positional_notMem_readCluster {letters : List Char}
    (h : readCluster registry letters = .ok reading) : positional text ∉ reading.arguments := by
  induction letters generalizing reading with
  | nil =>
      rw [← Except.ok.inj h]
      simp [TokenReading.arguments]
  | cons letter rest ih =>
      simp only [readCluster] at h
      split at h
      · simp at h
      split at h
      · rw [← Except.ok.inj h]
        exact positional_notMem_ofPending
      split at h
      · rw [← Except.ok.inj h]
        simp [TokenReading.arguments]
      · obtain ⟨later, hr, rfl⟩ := map_eq_ok_iff.1 h
        have := ih hr
        cases later <;> simp_all [TokenReading.cons, TokenReading.arguments]

theorem eq_of_positional_mem_readToken (h : readToken registry token = .ok reading)
    (hm : positional text ∈ reading.arguments) : text = token := by
  simp only [readToken] at h
  split at h
  · rw [← Except.ok.inj h] at hm
    simp [TokenReading.arguments] at hm
  · exact absurd hm (positional_notMem_readNamed h)
  · exact absurd hm (positional_notMem_readCluster h)
  · rw [← Except.ok.inj h] at hm
    simpa [TokenReading.arguments] using hm

/-- A positional argument is one of the tokens. -/
theorem mem_of_positional_mem (h : classify registry tokens = .ok found)
    (hm : positional text ∈ found) : text ∈ tokens := by
  fun_induction classify registry tokens generalizing found with
  | case1 => simp_all
  | case2 => simp at h
  | case3 token tokens hr =>
      rw [← Except.ok.inj h] at hm
      simp only [List.mem_map, positional.injEq, exists_eq_right] at hm
      exact List.mem_cons_of_mem _ hm
  | case4 token tokens own hr ih =>
      obtain ⟨later, hl, rfl⟩ := map_eq_ok_iff.1 h
      rcases List.mem_append.1 hm with hm | hm
      · exact List.mem_cons.2 (.inl (eq_of_positional_mem_readToken hr hm))
      · exact List.mem_cons_of_mem _ (ih hl hm)
  | case5 => simp at h
  | case6 token own last hr value tokens ih =>
      obtain ⟨later, hl, rfl⟩ := map_eq_ok_iff.1 h
      rcases List.mem_append.1 hm with hm | hm
      · exact List.mem_cons.2 (.inl (eq_of_positional_mem_readToken hr hm))
      rcases List.mem_cons.1 hm with hm | hm
      · exact absurd hm positional_ne_complete
      · exact List.mem_cons_of_mem _ (List.mem_cons_of_mem _ (ih hl hm))

end Argument

end ProtocInvocation
