import Mathlib.Data.List.Basic
import ProtocInvocation.Argument.Own
import ProtocInvocation.Fallible
import ProtocInvocation.Proofs.Text.Cut

/-!
# What a vector's own flags leave in a slot

Binding goes from flag to flag and changes one slot at a time. What a slot holds in the end depends
only on the occurrences of its own flag (`Shape.received`): all parts of their values for a list,
the last of them for a truth value or a text. Main statement: `get_of_foldlM_bind`.
-/

namespace ProtocInvocation

variable {s t : Settings} {f : Field} {a : Argument}

/-- The value with which an argument sets `field`, if it is a flag for it. -/
def Argument.occurrence? (field : Field) : Argument → Option (Option String)
  | flag g _ value => if g = field then some value else none
  | _ => none

/-- What occurrences of a flag leave in a slot that nothing else has set. -/
def Shape.received : (shape : Shape) → List (Option String) → shape.Value
  | .list, values => values.flatMap fun value => value.elim [] (Text.pieces ',')
  | .flag, values =>
    match values.getLast? with
    | none => false
    | some none => true
    | some (some value) => readBool? value = some true
  | .text, values => (values.getLast?.bind id).getD ""

namespace Shape

theorem received_nil (shape : Shape) : shape.received [] = shape.zero := by
  cases shape <;> rfl

theorem receive_received {shape : Shape} {flag : String} {value : Option String}
    {values : List (Option String)} {held : shape.Value}
    (h : shape.receive flag value (shape.received values) = .ok held) :
    held = shape.received (values ++ [value]) := by
  cases shape with
  | list =>
      cases value with
      | none => simp [receive] at h
      | some text =>
          simp only [receive, Except.ok.injEq] at h
          simp [← h, received]
  | flag =>
      cases value with
      | none =>
          simp only [receive, Except.ok.injEq] at h
          simp [← h, received]
      | some text =>
          simp only [receive] at h
          split at h
          · rename_i b hb
            simp only [Except.ok.injEq] at h
            simp [← h, received, hb]
          · simp at h
  | text =>
      cases value with
      | none => simp [receive] at h
      | some text =>
          simp only [receive, Except.ok.injEq] at h
          simp [← h, received]

theorem received_list_map_some {values : List String}
    (h : ∀ value ∈ values, ',' ∉ value.toList) : list.received (values.map some) = values := by
  calc (values.map some).flatMap (fun value => value.elim [] (Text.pieces ','))
    _ = values.flatMap (Text.pieces ',') := by rw [List.flatMap_map]; rfl
    _ = values.flatMap fun value => [value] :=
        List.flatMap_congr fun value hm => Text.pieces_of_notMem (h value hm)
    _ = values := List.flatMap_singleton' values

theorem received_flag_ite {b : Bool} : flag.received (if b then [none] else []) = b := by
  cases b <;> rfl

theorem exists_receive {shape : Shape} {value : Option String}
    (h : value.isSome ↔ shape ≠ .flag) (flag : String) (held : shape.Value) :
    ∃ next, shape.receive flag value held = .ok next := by
  cases shape <;> cases value <;> simp_all [receive]

theorem eq_flag_of_receive {shape : Shape} {flag : String} {held next : shape.Value}
    (h : shape.receive flag none held = .ok next) : shape = .flag := by
  cases shape with
  | list => cases h
  | flag => rfl
  | text => cases h

theorem received_list_eq_nil_iff {values : List (Option String)} :
    list.received values = [] ↔ ∀ value ∈ values, value = none := by
  rw [received, List.flatMap_eq_nil_iff]
  refine forall₂_congr fun value _ => ?_
  cases value with
  | none => simp
  | some text => simpa using Text.pieces_ne_nil ',' text

theorem received_flag_eq_false_iff {values : List (Option String)} :
    flag.received values = false ↔
      ∀ value, values.getLast? = some value →
        ∃ text, value = some text ∧ readBool? text ≠ some true := by
  rw [received]
  cases values.getLast? with
  | none => simp
  | some value =>
      cases value with
      | none => simp
      | some text => simp

theorem received_text_eq_empty_iff {values : List (Option String)} :
    text.received values = "" ↔
      ∀ value, values.getLast? = some value → value = none ∨ value = some "" := by
  rw [received]
  cases values.getLast? with
  | none => simp
  | some value =>
      cases value with
      | none => simp
      | some text => simp

theorem some_received_text_mem {values : List (Option String)} (h : text.received values ≠ "") :
    some (text.received values) ∈ values := by
  simp only [received] at h ⊢
  cases hl : values.getLast? with
  | none => simp [hl] at h
  | some value =>
      cases value with
      | none => simp [hl] at h
      | some text => exact List.mem_of_getLast? hl

end Shape

/-- A flag changes the slot of its field, and no other argument changes that slot. -/
theorem get_of_bind_eq_ok (h : a.bind s = .ok t) :
    match a.occurrence? f with
    | none => t.get f = s.get f
    | some value => ∃ flag, f.shape.receive flag value (s.get f) = .ok (t.get f) := by
  cases a with
  | flag g flag value =>
      simp only [Argument.bind, Settings.bind, map_eq_ok_iff] at h
      obtain ⟨held, hr, rfl⟩ := h
      by_cases hg : g = f
      · subst hg
        simpa [Argument.occurrence?] using ⟨flag, hr⟩
      · simpa [Argument.occurrence?, hg] using Settings.get_set_of_ne hg
  | directive d =>
      obtain rfl : s = t := Except.ok.inj h
      rfl
  | positional text =>
      obtain rfl : s = t := Except.ok.inj h
      rfl

theorem get_of_foldlM_bind {arguments : List Argument}
    (h : arguments.foldlM Argument.bind default = .ok s) :
    s.get f = f.shape.received (arguments.filterMap (Argument.occurrence? f)) := by
  refine foldlM_ok_induction
    (motive := fun done s => s.get f = f.shape.received (done.filterMap (Argument.occurrence? f)))
    ?_ ?_ h
  · rw [List.filterMap_nil, Shape.received_nil, Settings.get_default]
  · intro done s a t hs ht
    have hb := get_of_bind_eq_ok (f := f) ht
    cases ho : a.occurrence? f with
    | none =>
        rw [ho] at hb
        simpa [ho] using hb.trans hs
    | some value =>
        rw [ho] at hb
        obtain ⟨flag, hr⟩ := hb
        rw [hs] at hr
        simpa [ho] using Shape.receive_received hr

theorem foldlM_bind_positional {s : Settings} {texts : List String} :
    (texts.map Argument.positional).foldlM Argument.bind s = .ok s := by
  induction texts with
  | nil => rfl
  | cons text texts ih => exact ih

/-- Only truth values are set without a value. -/
theorem none_notMem_occurrences {arguments : List Argument}
    (h : arguments.foldlM Argument.bind default = .ok s) (hf : f.shape ≠ .flag) :
    none ∉ arguments.filterMap (Argument.occurrence? f) := by
  intro hm
  obtain ⟨a, ha, ho⟩ := List.mem_filterMap.1 hm
  obtain ⟨s, t, hb⟩ := exists_of_foldlM_eq_ok h ha
  have hr := get_of_bind_eq_ok (f := f) hb
  rw [ho] at hr
  obtain ⟨flag, hr⟩ := hr
  exact hf (Shape.eq_flag_of_receive hr)

end ProtocInvocation
