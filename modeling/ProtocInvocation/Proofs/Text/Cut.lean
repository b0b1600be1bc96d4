import Mathlib.Data.List.TakeWhile
import ProtocInvocation.Text.Cut

/-!
# Cuts at marks

How the parts of a text between marks follow from the cut around its first mark, and that no part
holds a mark, so a part is cut no further.
-/

namespace ProtocInvocation.Text

variable {mark c : Char} {text part first rest : String}

/-! ## The first mark -/

/-- A text with no mark is all first part. -/
theorem eq_of_cut (h : cut mark text = (first, none)) :
    first = text := by
  have hw := List.takeWhile_append_dropWhile (p := (· ≠ mark)) (l := text.toList)
  simp only [cut, Prod.mk.injEq] at h
  obtain ⟨rfl, hn⟩ := h
  split at hn
  · rename_i hd
    rw [hd, List.append_nil] at hw
    rw [hw, String.ofList_toList]
  · cases hn

theorem eq_append_of_cut (h : cut mark text = (first, some rest)) :
    text = first ++ String.singleton mark ++ rest := by
  have hw := List.takeWhile_append_dropWhile (p := (· ≠ mark)) (l := text.toList)
  simp only [cut, Prod.mk.injEq] at h
  obtain ⟨rfl, hs⟩ := h
  split at hs
  · cases hs
  · rename_i c after hd
    obtain rfl := Option.some.inj hs
    obtain rfl : c = mark := by
      have hc := List.head?_dropWhile_not (· ≠ mark) text.toList
      rw [hd] at hc
      simpa using hc
    rw [hd] at hw
    apply String.toList_inj.1
    simpa using hw.symm

theorem notMem_of_cut {after : Option String} (h : cut mark text = (first, after)) :
    mark ∉ first.toList := by
  intro hm
  rw [← (Prod.mk.inj h).1, String.toList_ofList] at hm
  simpa using List.mem_takeWhile_imp hm

theorem cut_of_notMem (h : mark ∉ text.toList) : cut mark text = (text, none) := by
  match hc : cut mark text with
  | (first, none) => rw [eq_of_cut hc]
  | (first, some rest) =>
      rw [eq_append_of_cut hc] at h
      simp at h

/-- The first mark is where a part without one ends. -/
theorem cut_append (h : mark ∉ first.toList) :
    cut mark (first ++ String.singleton mark ++ rest) = (first, some rest) := by
  have hall : ∀ c ∈ first.toList, decide (c ≠ mark) := by
    intro c hc
    have hne : c ≠ mark := fun he => h (he ▸ hc)
    simpa using hne
  have hlist : (first ++ String.singleton mark ++ rest).toList =
      first.toList ++ mark :: rest.toList := by simp
  rw [cut, hlist, List.takeWhile_append_of_pos hall, List.dropWhile_append_of_pos hall]
  simp

/-- What holds of a text with no mark, and of a text cut at its first mark if it holds of the rest,
holds of every text. -/
theorem cut_induction {holds : String → Prop} (mark : Char)
    (hw : ∀ text, mark ∉ text.toList → holds text)
    (hc : ∀ first rest, mark ∉ first.toList → holds rest →
      holds (first ++ String.singleton mark ++ rest)) (text : String) : holds text := by
  match h : cut mark text with
  | (first, none) => exact hw text (eq_of_cut h ▸ notMem_of_cut h)
  | (first, some rest) =>
      have htext := eq_append_of_cut h
      have hshorter : rest.length < text.length := by
        rw [htext]
        simp only [String.length_append, String.length_singleton]
        omega
      rw [htext]
      exact hc first rest (notMem_of_cut h) (cut_induction mark hw hc rest)
termination_by text.length

/-! ## All marks -/

theorem splitOn_eq {cs : List Char} : cs.splitOn mark =
    cs.takeWhile (· ≠ mark) ::
      match cs.dropWhile (· ≠ mark) with
      | [] => []
      | _ :: after => after.splitOn mark := by
  induction cs with
  | nil => rfl
  | cons c cs ih =>
      rw [List.splitOn_cons_eq_if_modifyHead]
      by_cases h : c = mark
      · simp [h]
      · simp [h, ih]

/-- The first part stands before the first mark, and the others are the parts of the rest. -/
theorem pieces_eq (mark : Char) (text : String) :
    pieces mark text = (cut mark text).1 :: (cut mark text).2.elim [] (pieces mark) := by
  simp only [cut, pieces]
  rw [splitOn_eq]
  cases hd : text.toList.dropWhile (· ≠ mark) with
  | nil => rfl
  | cons c after => rw [Option.elim_some, pieces, String.toList_ofList, List.map_cons]

theorem pieces_ne_nil (mark : Char) (text : String) : pieces mark text ≠ [] := by
  rw [pieces_eq]
  exact List.cons_ne_nil _ _

theorem mem_of_mem_splitOn {cs piece : List Char} (h : piece ∈ cs.splitOn mark) (hc : c ∈ piece) :
    c ∈ cs ∧ c ≠ mark := by
  induction cs generalizing piece with
  | nil =>
      obtain rfl : piece = [] := List.mem_singleton.1 h
      cases hc
  | cons d cs ih =>
      rw [List.splitOn_cons_eq_if_modifyHead] at h
      split at h
      · rcases List.mem_cons.1 h with rfl | h
        · cases hc
        · exact (ih h hc).imp_left (List.mem_cons_of_mem d)
      · rename_i hd
        obtain ⟨head, tail, hs⟩ := List.exists_cons_of_ne_nil (List.splitOn_ne_nil mark cs)
        rw [hs, List.modifyHead_cons] at h
        rw [hs] at ih
        rcases List.mem_cons.1 h with rfl | h
        · rcases List.mem_cons.1 hc with rfl | hc
          · exact ⟨List.mem_cons_self, by simpa using hd⟩
          · exact (ih List.mem_cons_self hc).imp_left (List.mem_cons_of_mem d)
        · exact (ih (List.mem_cons_of_mem _ h) hc).imp_left (List.mem_cons_of_mem d)

theorem mem_of_mem_pieces (h : part ∈ pieces mark text) (hc : c ∈ part.toList) :
    c ∈ text.toList ∧ c ≠ mark := by
  obtain ⟨piece, hp, rfl⟩ := List.mem_map.1 h
  rw [String.toList_ofList] at hc
  exact mem_of_mem_splitOn hp hc

theorem notMem_of_mem_pieces (h : part ∈ pieces mark text) : mark ∉ part.toList :=
  fun hm => (mem_of_mem_pieces h hm).2 rfl

theorem pieces_of_notMem (h : mark ∉ text.toList) : pieces mark text = [text] := by
  rw [pieces, List.splitOn_eq_singleton h, List.map_singleton, String.ofList_toList]

theorem pieces_append (mark : Char) (first rest : String) :
    pieces mark (first ++ String.singleton mark ++ rest) =
      pieces mark first ++ pieces mark rest := by
  have hlist : (first ++ String.singleton mark ++ rest).toList =
      first.toList ++ mark :: rest.toList := by simp
  rw [pieces, hlist, List.splitOn_append_cons_self, List.map_append]
  rfl

theorem length_pieces (mark : Char) (text : String) :
    (pieces mark text).length = text.toList.count mark + 1 := by
  induction text using cut_induction mark with
  | hw text h => rw [pieces_of_notMem h, List.count_eq_zero.2 h, List.length_singleton]
  | hc first rest h ih =>
      rw [pieces_append, pieces_of_notMem h, List.length_append, ih]
      simp [List.count_eq_zero.2 h, Nat.add_comm]

end ProtocInvocation.Text
