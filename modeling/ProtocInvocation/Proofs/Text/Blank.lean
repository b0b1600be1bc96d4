import Mathlib.Data.List.DropRight
import ProtocInvocation.Text.Blank

/-!
# Text between blanks

A text is what is left of it without the blanks at its ends, between blanks. That is the only way to
take it apart into blanks, a text that neither begins nor ends with one, and blanks again
(`trim_eq_iff`).
-/

namespace ProtocInvocation.Text

variable {text core before after : String}

/-- Whether a text holds nothing but blanks. -/
def IsBlankText (text : String) : Prop :=
  ∀ c ∈ text.toList, isBlank c

/-- Whether a text neither begins nor ends with a blank. -/
structure IsTrimmed (text : String) : Prop where
  head : ∀ c, text.toList.head? = some c → isBlank c = false
  last : ∀ c, text.toList.getLast? = some c → isBlank c = false

instance : Decidable (IsBlankText text) :=
  decidable_of_iff (text.toList.all isBlank) List.all_eq_true

instance : Decidable (IsTrimmed text) :=
  decidable_of_iff
    (text.toList.head?.all (! isBlank ·) ∧ text.toList.getLast?.all (! isBlank ·)) <| by
      simp only [Option.all_eq_true, Bool.not_eq_true']
      exact ⟨fun ⟨h, l⟩ => ⟨h, l⟩, fun ⟨h, l⟩ => ⟨h, l⟩⟩

theorem isBlankText_append :
    IsBlankText (before ++ after) ↔ IsBlankText before ∧ IsBlankText after := by
  simp only [IsBlankText, String.toList_append, List.forall_mem_append]

/-! ## Characters -/

theorem dropWhile_isBlank {cs : List Char} (h : ∀ c, cs.head? = some c → isBlank c = false) :
    cs.dropWhile isBlank = cs := by
  cases cs with
  | nil => rfl
  | cons c cs => exact List.dropWhile_cons_of_neg (by simp [h c rfl])

theorem isBlank_of_head?_dropWhile {cs : List Char} {c : Char}
    (h : (cs.dropWhile isBlank).head? = some c) : isBlank c = false := by
  have hn := List.head?_dropWhile_not isBlank cs
  rwa [h] at hn

theorem trimList_append {before cs after : List Char} (hb : ∀ c ∈ before, isBlank c)
    (ha : ∀ c ∈ after, isBlank c) (hh : ∀ c, cs.head? = some c → isBlank c = false)
    (hl : ∀ c, cs.getLast? = some c → isBlank c = false) :
    trimList (before ++ cs ++ after) = cs := by
  rw [trimList, List.append_assoc, List.dropWhile_append_of_pos hb]
  cases cs with
  | nil =>
      have hnil : after.dropWhile isBlank = [] := List.dropWhile_eq_nil_iff.2 ha
      rw [List.nil_append, hnil]
      rfl
  | cons c cs =>
      have hrest : (c :: cs ++ after).dropWhile isBlank = c :: cs ++ after :=
        dropWhile_isBlank fun d hd => hh d hd
      have hends : ∀ d, (c :: cs).reverse.head? = some d → isBlank d = false := by
        rw [List.head?_reverse]
        exact hl
      rw [hrest, List.reverse_append,
        List.dropWhile_append_of_pos fun d hd => ha d (List.mem_reverse.1 hd),
        dropWhile_isBlank hends, List.reverse_reverse]

theorem exists_eq_append_trimList (cs : List Char) : ∃ before after,
    cs = before ++ trimList cs ++ after ∧ (∀ c ∈ before, isBlank c) ∧ ∀ c ∈ after, isBlank c := by
  refine ⟨cs.takeWhile isBlank, (cs.dropWhile isBlank).rtakeWhile isBlank, ?_,
    fun _ => List.mem_takeWhile_imp, fun _ => List.mem_rtakeWhile_imp⟩
  have hd : trimList cs = (cs.dropWhile isBlank).rdropWhile isBlank := rfl
  rw [hd, List.append_assoc, List.rdropWhile_append_rtakeWhile, List.takeWhile_append_dropWhile]

theorem isBlank_of_head?_trimList {cs : List Char} {c : Char}
    (h : (trimList cs).head? = some c) : isBlank c = false := by
  have hp : trimList cs <+: cs.dropWhile isBlank := List.rdropWhile_prefix isBlank _
  obtain ⟨after, ha⟩ := hp
  have hd : (cs.dropWhile isBlank).head? = some c := by
    rw [← ha, List.head?_append, h, Option.some_or]
  exact isBlank_of_head?_dropWhile hd

theorem isBlank_of_getLast?_trimList {cs : List Char} {c : Char}
    (h : (trimList cs).getLast? = some c) : isBlank c = false := by
  rw [trimList, List.getLast?_reverse] at h
  exact isBlank_of_head?_dropWhile h

/-! ## Texts -/

theorem isTrimmed_trim (text : String) : IsTrimmed (trim text) := by
  refine ⟨fun c h => ?_, fun c h => ?_⟩
  · rw [trim, String.toList_ofList] at h
    exact isBlank_of_head?_trimList h
  · rw [trim, String.toList_ofList] at h
    exact isBlank_of_getLast?_trimList h

theorem exists_eq_append_trim (text : String) : ∃ before after,
    text = before ++ trim text ++ after ∧ IsBlankText before ∧ IsBlankText after := by
  obtain ⟨before, after, hcs, hb, ha⟩ := exists_eq_append_trimList text.toList
  refine ⟨String.ofList before, String.ofList after, ?_, ?_, ?_⟩
  · apply String.toList_inj.1
    simpa [trim] using hcs
  · simpa [IsBlankText] using hb
  · simpa [IsBlankText] using ha

theorem trim_append (hb : IsBlankText before) (ha : IsBlankText after) (h : IsTrimmed core) :
    trim (before ++ core ++ after) = core := by
  apply String.toList_inj.1
  rw [trim, String.toList_ofList, String.toList_append, String.toList_append]
  exact trimList_append hb ha h.head h.last

theorem trim_eq_iff : trim text = core ↔ IsTrimmed core ∧
    ∃ before after, text = before ++ core ++ after ∧ IsBlankText before ∧ IsBlankText after := by
  constructor
  · rintro rfl
    exact ⟨isTrimmed_trim text, exists_eq_append_trim text⟩
  · rintro ⟨hc, before, after, rfl, hb, ha⟩
    exact trim_append hb ha hc

end ProtocInvocation.Text
