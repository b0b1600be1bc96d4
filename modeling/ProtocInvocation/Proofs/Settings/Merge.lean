import ProtocInvocation.Settings.Merge

/-!
# Merging as one fold

Merging is associative and blank settings change nothing, so a merge from the leaves of a tree of
vectors upwards is a fold over the vectors in order. What the fold puts in a slot is said for each
shape by itself (`Shape.overall`): all that the lists hold, whether any truth value is true, the
last text that is not empty. Main statement: `Settings.get_foldl_merge_default`.
-/

namespace ProtocInvocation

/-! ## Policies -/

namespace Shape

variable {shape : Shape}

theorem mergePolicy_assoc (a b c : shape.Value) :
    shape.mergePolicy.apply (shape.mergePolicy.apply a b) c =
      shape.mergePolicy.apply a (shape.mergePolicy.apply b c) := by
  cases shape with
  | list => exact List.append_assoc a b c
  | flag => exact Bool.or_assoc a b c
  | text =>
      simp only [mergePolicy, MergePolicy.apply]
      by_cases hc : c = ""
      · simp [hc]
      · simp [hc]

theorem zero_mergePolicy (a : shape.Value) : shape.mergePolicy.apply shape.zero a = a := by
  cases shape with
  | list => rfl
  | flag => exact Bool.false_or a
  | text =>
      simp only [mergePolicy, MergePolicy.apply, zero]
      split
      · exact Eq.symm ‹_›
      · rfl

theorem mergePolicy_zero (a : shape.Value) : shape.mergePolicy.apply a shape.zero = a := by
  cases shape with
  | list => exact List.append_nil a
  | flag => exact Bool.or_false a
  | text => rfl

theorem mergePolicy_eq_zero_iff {a b : shape.Value} :
    shape.mergePolicy.apply a b = shape.zero ↔ a = shape.zero ∧ b = shape.zero := by
  cases shape with
  | list => exact List.append_eq_nil_iff
  | flag => exact Bool.or_eq_false_iff
  | text =>
      simp only [mergePolicy, MergePolicy.apply, zero]
      by_cases hb : b = ""
      · simp [hb]
      · simp [hb]

/-- What the values of one slot come to that a tree of vectors gives, in order. -/
def overall : (shape : Shape) → List shape.Value → shape.Value
  | .list, values => values.flatten
  | .flag, values => values.any id
  | .text, values => (values.filter (· ≠ "")).getLastD ""

/-- A text in front stays only if no later text, none of which is empty, takes its place. -/
theorem getLastD_of_ne_empty {a : String} {later : List String} (h : ∀ t ∈ later, t ≠ "") :
    later.getLastD a = if later.getLastD "" = "" then a else later.getLastD "" := by
  rcases List.eq_nil_or_concat later with rfl | ⟨earlier, last, rfl⟩
  · rfl
  · have hl : last ≠ "" := h last (by simp)
    simp [hl]

theorem overall_nil : shape.overall [] = shape.zero := by
  cases shape <;> rfl

theorem overall_cons (a : shape.Value) (values : List shape.Value) :
    shape.overall (a :: values) = shape.mergePolicy.apply a (shape.overall values) := by
  cases shape with
  | list => rfl
  | flag => rfl
  | text =>
      simp only [overall, mergePolicy, MergePolicy.apply]
      by_cases ha : a = ""
      · rw [List.filter_cons_of_neg (by simpa using ha), ha]
        split
        · assumption
        · rfl
      · rw [List.filter_cons_of_pos (by simpa using ha), List.getLastD_cons]
        exact getLastD_of_ne_empty fun t ht => by simpa using (List.mem_filter.1 ht).2

theorem overall_eq_zero_iff {values : List shape.Value} :
    shape.overall values = shape.zero ↔ ∀ value ∈ values, value = shape.zero := by
  induction values with
  | nil => simp [overall_nil]
  | cons a values ih => rw [overall_cons, mergePolicy_eq_zero_iff, ih, List.forall_mem_cons]

theorem overall_text_mem {values : List String} (h : text.overall values ≠ "") :
    text.overall values ∈ values := by
  induction values with
  | nil => exact absurd overall_nil h
  | cons a values ih =>
      have hcons : text.overall (a :: values) =
          if text.overall values = "" then a else text.overall values :=
        @overall_cons .text a values
      rw [hcons]
      split
      · exact List.mem_cons_self
      · exact List.mem_cons_of_mem a (ih ‹_›)

theorem foldl_mergePolicy (a : shape.Value) (values : List shape.Value) :
    values.foldl shape.mergePolicy.apply a = shape.mergePolicy.apply a (shape.overall values) := by
  induction values generalizing a with
  | nil => rw [overall_nil, mergePolicy_zero, List.foldl_nil]
  | cons b values ih => rw [List.foldl_cons, ih, overall_cons, mergePolicy_assoc]

end Shape

/-! ## Settings -/

namespace Settings

variable {f : Field}

theorem merge_assoc (s t u : Settings) : (s.merge t).merge u = s.merge (t.merge u) := by
  apply ext_get
  intro f
  simp only [get_merge]
  exact f.shape.mergePolicy_assoc _ _ _

@[simp] theorem default_merge (s : Settings) : (default : Settings).merge s = s := by
  apply ext_get
  intro f
  rw [get_merge, get_default]
  exact f.shape.zero_mergePolicy _

@[simp] theorem merge_default (s : Settings) : s.merge default = s := by
  apply ext_get
  intro f
  rw [get_merge, get_default]
  exact f.shape.mergePolicy_zero _

theorem foldl_merge (s : Settings) (later : List Settings) :
    later.foldl merge s = s.merge (later.foldl merge default) := by
  induction later generalizing s with
  | nil => simp
  | cons t later ih =>
      rw [List.foldl_cons, ih, List.foldl_cons, default_merge, ih t, merge_assoc]

theorem get_foldl_merge (s : Settings) (later : List Settings) :
    (later.foldl merge s).get f =
      (later.map (·.get f)).foldl f.shape.mergePolicy.apply (s.get f) := by
  induction later generalizing s with
  | nil => rfl
  | cons t later ih =>
      rw [List.foldl_cons, ih, List.map_cons, List.foldl_cons, get_merge]
      rfl

/-- A slot of merged settings holds what its values come to, whatever is in the other slots. -/
theorem get_foldl_merge_default (all : List Settings) :
    (all.foldl merge default).get f = f.shape.overall (all.map (·.get f)) := by
  rw [get_foldl_merge, get_default, Shape.foldl_mergePolicy, Shape.zero_mergePolicy]

end Settings

end ProtocInvocation
