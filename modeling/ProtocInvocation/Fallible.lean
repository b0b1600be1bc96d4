/-!
# Steps that can fail

When a step that ends with a value or a fault ends with a value, and what a run of such steps over
a list keeps.
-/

namespace ProtocInvocation

variable {ε α β σ : Type}

theorem bind_eq_ok_iff {result : Except ε α} {next : α → Except ε β} {b : β} :
    result >>= next = .ok b ↔ ∃ a, result = .ok a ∧ next a = .ok b := by
  cases result with
  | error fault => simp [bind, Except.bind]
  | ok a => simp [bind, Except.bind]

theorem map_eq_ok_iff {result : Except ε α} {f : α → β} {b : β} :
    result.map f = .ok b ↔ ∃ a, result = .ok a ∧ f a = b := by
  cases result with
  | error fault => simp [Except.map]
  | ok a => simp [Except.map]

theorem bind_eq_error_iff {result : Except ε α} {next : α → Except ε β} {fault : ε} :
    result >>= next = .error fault ↔
      result = .error fault ∨ ∃ a, result = .ok a ∧ next a = .error fault := by
  cases result with
  | error fault' => simp [bind, Except.bind]
  | ok a => simp [bind, Except.bind]

theorem map_eq_error_iff {result : Except ε α} {f : α → β} {fault : ε} :
    result.map f = .error fault ↔ result = .error fault := by
  cases result with
  | error fault' => simp [Except.map]
  | ok a => simp [Except.map]

theorem exists_map_ok_of_error_notMem {items : List (Except ε α)}
    (h : ∀ fault, .error fault ∉ items) : ∃ values : List α, items = values.map .ok := by
  induction items with
  | nil => exact ⟨[], rfl⟩
  | cons item items ih =>
      obtain ⟨values, rfl⟩ := ih fun fault hm => h fault (List.mem_cons_of_mem _ hm)
      cases item with
      | error fault => exact absurd List.mem_cons_self (h fault)
      | ok a => exact ⟨a :: values, rfl⟩

theorem exists_ok_of_error_notMem_map {step : β → Except ε α} {items : List β}
    (h : ∀ fault, .error fault ∉ items.map step) {item : β} (hm : item ∈ items) :
    ∃ a, step item = .ok a := by
  cases hs : step item with
  | error fault => exact absurd (List.mem_map.2 ⟨item, hm, hs⟩) (h fault)
  | ok a => exact ⟨a, rfl⟩

/-- Two results are related if they are values that are, or if one of them is none. -/
def OnValues (related : α → α → Prop) (x y : Except ε α) : Prop :=
  ∀ a b, x = .ok a → y = .ok b → related a b

theorem onValues_ok_iff {related : α → α → Prop} {a b : α} :
    OnValues related (.ok a : Except ε α) (.ok b) ↔ related a b := by
  simp [OnValues]

theorem pairwise_onValues_map_iff {related : α → α → Prop} {values : List α} :
    (values.map (.ok : α → Except ε α)).Pairwise (OnValues related) ↔ values.Pairwise related := by
  simp only [List.pairwise_map, onValues_ok_iff]

theorem exists_of_foldlM_eq_error {step : σ → α → Except ε σ} {items : List α} {start : σ}
    {fault : ε} (h : items.foldlM step start = .error fault) :
    ∃ a ∈ items, ∃ s, step s a = .error fault := by
  induction items generalizing start with
  | nil => cases h
  | cons a items ih =>
      rw [List.foldlM_cons, bind_eq_error_iff] at h
      rcases h with h | ⟨t, _, h⟩
      · exact ⟨a, by simp, start, h⟩
      · obtain ⟨b, hb, s, hs⟩ := ih h
        exact ⟨b, List.mem_cons_of_mem _ hb, s, hs⟩

theorem exists_of_foldlM_eq_ok {step : σ → α → Except ε σ} {items : List α} {start last : σ}
    (h : items.foldlM step start = .ok last) {a : α} (ha : a ∈ items) :
    ∃ s t, step s a = .ok t := by
  induction items generalizing start with
  | nil => cases ha
  | cons b items ih =>
      rw [List.foldlM_cons, bind_eq_ok_iff] at h
      obtain ⟨t, hb, h⟩ := h
      rcases List.mem_cons.1 ha with rfl | ha
      · exact ⟨start, t, hb⟩
      · exact ih h ha

theorem exists_foldlM_eq_ok {step : σ → α → Except ε σ} {items : List α}
    (h : ∀ a ∈ items, ∀ s, ∃ t, step s a = .ok t) (start : σ) :
    ∃ last, items.foldlM step start = .ok last := by
  induction items generalizing start with
  | nil => exact ⟨start, rfl⟩
  | cons a items ih =>
      obtain ⟨t, ht⟩ := h a List.mem_cons_self start
      obtain ⟨last, hl⟩ := ih (fun b hb => h b (List.mem_cons_of_mem _ hb)) t
      exact ⟨last, bind_eq_ok_iff.2 ⟨t, ht, hl⟩⟩

/-- What holds at the start and is kept by every step holds at the end, of all that was done. -/
theorem foldlM_ok_induction {step : σ → α → Except ε σ} {motive : List α → σ → Prop} {start : σ}
    (hs : motive [] start)
    (hk : ∀ done s a t, motive done s → step s a = .ok t → motive (done ++ [a]) t) :
    ∀ {items : List α} {last : σ}, items.foldlM step start = .ok last → motive items last := by
  suffices h : ∀ (items done : List α) (s last : σ), motive done s →
      items.foldlM step s = .ok last → motive (done ++ items) last by
    intro items last hl
    simpa using h items [] start last hs hl
  intro items
  induction items with
  | nil =>
      intro done s last hd hl
      obtain rfl : s = last := Except.ok.inj hl
      simpa using hd
  | cons a items ih =>
      intro done s last hd hl
      rw [List.foldlM_cons, bind_eq_ok_iff] at hl
      obtain ⟨t, ht, hl⟩ := hl
      have := ih (done ++ [a]) t last (hk done s a t hd ht) hl
      simpa using this

end ProtocInvocation
