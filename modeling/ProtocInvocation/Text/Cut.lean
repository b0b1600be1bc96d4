/-!
# Cutting text

Taking a text apart at its ends, at a mark or at an offset: without a given lead, without a given
tail, around the first mark, at every mark, behind so many bytes. Each cut is defined on the list of
characters, and its lemma says how the parts make up the whole again.
-/

namespace ProtocInvocation.Text

variable {lead tail text rest : String}

/-! ## Ends -/

/-- What follows `lead` in `text`, if `text` begins with it. -/
def dropLead? (lead text : String) : Option String :=
  (lead.toList.isPrefixOf? text.toList).map String.ofList

/-- What precedes `tail` in `text`, if `text` ends with it. -/
def dropTail? (tail text : String) : Option String :=
  (tail.toList.isSuffixOf? text.toList).map String.ofList

theorem isPrefixOf?_eq_some_iff {xs ys zs : List Char} :
    xs.isPrefixOf? ys = some zs ↔ ys = xs ++ zs := by
  induction xs generalizing ys with
  | nil =>
      have hn : [].isPrefixOf? ys = some ys := by cases ys <;> rfl
      simp [hn, eq_comm]
  | cons x xs ih =>
      cases ys with
      | nil =>
          have hn : (x :: xs).isPrefixOf? [] = none := rfl
          simp [hn]
      | cons y ys =>
          have hc : (x :: xs).isPrefixOf? (y :: ys) =
              if x == y then xs.isPrefixOf? ys else none := rfl
          rw [hc]
          by_cases h : x = y
          · simp [ih, h]
          · simp [h, Ne.symm h]

theorem dropLead?_eq_some_iff : dropLead? lead text = some rest ↔ text = lead ++ rest := by
  simp only [dropLead?, Option.map_eq_some_iff, isPrefixOf?_eq_some_iff]
  constructor
  · rintro ⟨cs, h, rfl⟩
    exact String.toList_inj.1 (by simp [h])
  · rintro rfl
    exact ⟨rest.toList, by simp, by simp⟩

theorem dropTail?_eq_some_iff : dropTail? tail text = some rest ↔ text = rest ++ tail := by
  have hs : tail.toList.isSuffixOf? text.toList =
      (tail.toList.reverse.isPrefixOf? text.toList.reverse).map List.reverse := rfl
  simp only [dropTail?, hs, Option.map_map, Option.map_eq_some_iff, isPrefixOf?_eq_some_iff]
  constructor
  · rintro ⟨cs, h, rfl⟩
    have h' := congrArg List.reverse h
    simp only [List.reverse_reverse, List.reverse_append] at h'
    exact String.toList_inj.1 (by simp [h'])
  · rintro rfl
    exact ⟨rest.toList.reverse, by simp, by simp⟩

/-! ## Marks -/

/-- The text before the first `mark`, and the text after it if there is a mark at all. -/
def cut (mark : Char) (text : String) : String × Option String :=
  (String.ofList (text.toList.takeWhile (· ≠ mark)),
    match text.toList.dropWhile (· ≠ mark) with
    | [] => none
    | _ :: after => some (String.ofList after))

/-- The parts between the marks of `text`, one more than there are marks. -/
def pieces (mark : Char) (text : String) : List String :=
  (text.toList.splitOn mark).map String.ofList

/-! ## Bytes -/

/-- The characters within the first `size` bytes and those behind them, unless a character lies in
both. -/
def cutBytes? : Nat → List Char → Option (List Char × List Char)
  | 0, cs => some ([], cs)
  | _ + 1, [] => none
  | size + 1, c :: cs =>
    if c.utf8Size ≤ size + 1 then
      (cutBytes? (size + 1 - c.utf8Size) cs).map fun (within, behind) => (c :: within, behind)
    else none

/-- How many bytes characters take up. -/
def byteSize : List Char → Nat
  | [] => 0
  | c :: cs => c.utf8Size + byteSize cs

theorem cutBytes?_eq_some_iff {size : Nat} {cs within behind : List Char} :
    cutBytes? size cs = some (within, behind) ↔
      cs = within ++ behind ∧ byteSize within = size := by
  fun_induction cutBytes? size cs generalizing within with
  | case1 cs =>
      cases within with
      | nil => simp [byteSize, eq_comm]
      | cons c cs => simp [byteSize, Nat.ne_of_gt c.utf8Size_pos]
  | case2 size => cases within <;> simp [byteSize]
  | case3 size c cs h ih =>
      cases within with
      | nil => simp [byteSize]
      | cons d ds =>
        simp only [Option.map_eq_some_iff, Prod.mk.injEq, List.cons.injEq, Prod.exists,
          List.cons_append, byteSize]
        constructor
        · rintro ⟨ds, rest, h', ⟨rfl, rfl⟩, rfl⟩
          obtain ⟨rfl, hs⟩ := ih.1 h'
          exact ⟨⟨rfl, rfl⟩, by omega⟩
        · rintro ⟨⟨rfl, rfl⟩, hs⟩
          exact ⟨ds, behind, ih.2 ⟨rfl, by omega⟩, ⟨rfl, rfl⟩, rfl⟩
  | case4 size c cs h =>
      cases within with
      | nil => simp [byteSize]
      | cons d ds =>
        simp only [reduceCtorEq, List.cons_append, List.cons.injEq, byteSize,
          false_iff, not_and]
        rintro ⟨rfl, rfl⟩
        omega

end ProtocInvocation.Text
