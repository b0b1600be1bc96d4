import ProtocInvocation.Proofs.Settings.Merge

/-!
# Merging field by field

A merge can be carried out in place, one field after the other: each step changes one slot and reads
that slot only, so it does not matter in which order the fields come, as long as each of them comes
once (`Settings.foldl_mergeSlot`). With a second turn a list would be appended twice. Main
statement: `Settings.merge_fieldwise`.
-/

namespace ProtocInvocation

/-- No field comes twice in the list of all fields. -/
theorem Field.nodup_all : all.Nodup := by
  decide

namespace Settings

variable {s t : Settings} {f : Field} {fields : List Field}

/-- The settings `s` with one slot joined by that of the later settings `t`. -/
def mergeSlot (t s : Settings) (field : Field) : Settings :=
  s.set field (field.mergePolicy.apply (s.get field) (t.get field))

theorem get_mergeSlot_self :
    (t.mergeSlot s f).get f = f.mergePolicy.apply (s.get f) (t.get f) :=
  get_set_self

theorem get_mergeSlot_of_ne {field : Field} (h : field ≠ f) :
    (t.mergeSlot s field).get f = s.get f :=
  get_set_of_ne h

/-- After a turn of some of the fields, their slots are merged and the others are as before. -/
theorem get_foldl_mergeSlot (h : fields.Nodup) :
    (fields.foldl t.mergeSlot s).get f =
      if f ∈ fields then f.mergePolicy.apply (s.get f) (t.get f) else s.get f := by
  induction fields generalizing s with
  | nil => rfl
  | cons field fields ih =>
      obtain ⟨hn, hd⟩ := List.nodup_cons.1 h
      rw [List.foldl_cons, ih hd]
      by_cases hf : field = f
      · subst hf
        rw [if_neg hn, if_pos List.mem_cons_self, get_mergeSlot_self]
      · have hm : f ∈ field :: fields ↔ f ∈ fields :=
          List.mem_cons.trans (or_iff_right (Ne.symm hf))
        simp only [hm, get_mergeSlot_of_ne hf]

/-- Settings are merged when each field has had its turn, in whatever order. -/
theorem foldl_mergeSlot (h : fields.Nodup) (ha : ∀ f, f ∈ fields) :
    fields.foldl t.mergeSlot s = s.merge t := by
  apply ext_get
  intro f
  rw [get_foldl_mergeSlot h, if_pos (ha f), get_merge]

theorem eq_merge_iff {m : Settings} :
    m = s.merge t ↔ ∀ f, m.get f = f.mergePolicy.apply (s.get f) (t.get f) := by
  constructor
  · rintro rfl f
    exact get_merge
  · intro h
    apply ext_get
    intro f
    rw [h f, get_merge]

theorem isSet_iff : s.isSet f ↔ s.get f ≠ f.shape.zero := by
  rw [isSet, decide_eq_true_iff]

/-- A merge sets what either of the two has set, and unsets nothing. -/
theorem isSet_merge_iff : (s.merge t).isSet f ↔ s.isSet f ∨ t.isSet f := by
  have hz : (s.merge t).get f = f.shape.zero ↔ s.get f = f.shape.zero ∧ t.get f = f.shape.zero := by
    rw [get_merge]
    exact Shape.mergePolicy_eq_zero_iff
  rw [isSet_iff, isSet_iff, isSet_iff, ne_eq, hz, Decidable.not_and_iff_not_or_not]

/-- Merging is associative, and blank settings are its unit on both sides. It can be carried out in
place, field by field, and is fixed by its slots: each is what the policy for the field makes of the
same slot of both. So a field is set by a merge exactly if one of the two sets it. -/
theorem merge_fieldwise (s t u : Settings) :
    (s.merge t).merge u = s.merge (t.merge u) ∧
    (default : Settings).merge s = s ∧ s.merge default = s ∧
    Field.all.foldl t.mergeSlot s = s.merge t ∧
    (∀ m, m = s.merge t ↔ ∀ f, m.get f = f.mergePolicy.apply (s.get f) (t.get f)) ∧
    ∀ f, (s.merge t).isSet f ↔ s.isSet f ∨ t.isSet f :=
  ⟨merge_assoc s t u, default_merge s, merge_default s, foldl_mergeSlot Field.nodup_all Field.mem_all,
    fun _ => eq_merge_iff, fun _ => isSet_merge_iff⟩

end Settings

end ProtocInvocation
