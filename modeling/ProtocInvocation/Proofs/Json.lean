import ProtocInvocation.Json

/-!
# A layout is read in one way

Each escape says where it ends and which character it stands for, and no escape begins with the
quote, so a quoted text ends at its own quote whatever follows it. A value is known by the first
character of its layout, and an item or entry is followed by a comma or a new line. So a layout
determines its value and what follows it.

Main statement: `Json.layout_append_inj`.
-/

namespace ProtocInvocation.Json

variable {c : Char} {v w : String} {level : Nat} {rest other : List Char}

/-! ## Characters -/

/-- The control character whose number has these two digits. -/
def control? (high low : Char) : Option Char :=
  ((List.range 32).find? fun n => hexDigit (n / 16) = high ∧ hexDigit (n % 16) = low).map Char.ofNat

/-- The characters that a backslash and a letter stand for. -/
def letterEscapes : List (Char × Char) :=
  [('"', '"'), ('\\', '\\'), ('b', '\x08'), ('t', '\t'), ('n', '\n'), ('f', '\x0c'), ('r', '\r')]

/-- The character that is written behind a backslash, and what follows it. -/
def afterBackslash? : List Char → Option (Char × List Char)
  | 'u' :: '0' :: '0' :: high :: low :: rest => (control? high low).map fun c => (c, rest)
  | letter :: rest => (letterEscapes.lookup letter).map fun c => (c, rest)
  | [] => none

/-- The character that stands first in what is written between quotes, and what follows it. -/
def unescape? : List Char → Option (Char × List Char)
  | [] => none
  | c :: rest =>
    if c = '"' then none
    else if c = '\\' then afterBackslash? rest
    else some (c, rest)

theorem control?_hexDigit (h : c.toNat < 32) :
    control? (hexDigit (c.toNat / 16)) (hexDigit (c.toNat % 16)) = some c := by
  have hall : ∀ n < 32, control? (hexDigit (n / 16)) (hexDigit (n % 16)) = some (Char.ofNat n) := by
    decide
  rw [hall _ h, Char.ofNat_toNat]

/-- No escape begins with the quote, and each gives back its character and ends where it ends. -/
theorem unescape?_escape : unescape? (escape c ++ rest) = some (c, rest) := by
  by_cases hs : c ∈ letterEscapes.map Prod.snd
  all_goals simp only [letterEscapes, List.map_cons, List.map_nil, List.mem_cons,
    List.not_mem_nil, or_false, not_or] at hs
  · rcases hs with rfl | rfl | rfl | rfl | rfl | rfl | rfl <;> rfl
  · obtain ⟨hquote, hslash, hb, ht, hn, hf, hr⟩ := hs
    simp only [escape, if_neg hquote, if_neg hslash, if_neg hb, if_neg ht, if_neg hn, if_neg hf,
      if_neg hr]
    split
    · rename_i hc
      exact congrArg (Option.map fun c => (c, rest)) (control?_hexDigit hc)
    · simp only [List.singleton_append, unescape?, if_neg hquote, if_neg hslash]

/-! ## Texts -/

theorem flatMap_escape_append_inj {cs ds : List Char}
    (h : cs.flatMap escape ++ '"' :: rest = ds.flatMap escape ++ '"' :: other) :
    cs = ds ∧ rest = other := by
  induction cs generalizing ds with
  | nil =>
      cases ds with
      | nil => simpa using h
      | cons d ds =>
          have hu := congrArg unescape? h
          simp only [List.flatMap_cons, List.append_assoc, unescape?_escape] at hu
          cases hu
  | cons c cs ih =>
      have hu := congrArg unescape? h
      simp only [List.flatMap_cons, List.append_assoc, unescape?_escape] at hu
      cases ds with
      | nil => cases hu
      | cons d ds =>
          simp only [List.flatMap_cons, List.append_assoc, unescape?_escape, Option.some.injEq,
            Prod.mk.injEq] at hu
          obtain ⟨hcs, hrest⟩ := ih hu.2
          exact ⟨by rw [hu.1, hcs], hrest⟩

/-- A quoted text determines its value and where it ends. -/
theorem quote_append_inj (h : quote v ++ rest = quote w ++ other) : v = w ∧ rest = other := by
  simp only [quote, List.cons_append, List.append_assoc, List.nil_append, List.cons.injEq,
    true_and] at h
  obtain ⟨hv, hrest⟩ := flatMap_escape_append_inj h
  exact ⟨String.toList_inj.1 hv, hrest⟩

/-- So does a quoted name with the colon behind it. -/
theorem name_append_inj (h : quote v ++ ':' :: ' ' :: rest = quote w ++ ':' :: ' ' :: other) :
    v = w ∧ rest = other := by
  obtain ⟨hv, h⟩ := quote_append_inj h
  exact ⟨hv, (List.cons.inj (List.cons.inj h).2).2⟩

/-! ## Values -/

/-- The first character of the layout of a value. -/
def opening : Json → Char
  | null => 'n'
  | bool true => 't'
  | bool false => 'f'
  | text _ => '"'
  | list _ => '['
  | object _ => '\x7b'

theorem head?_layout (j : Json) : (layout level j ++ rest).head? = some j.opening := by
  cases j with
  | null => simp [layout, opening]
  | bool value => cases value <;> simp [layout, opening]
  | text value => rfl
  | list items => cases items <;> rfl
  | object entries =>
      cases entries with
      | nil => rfl
      | cons entry entries => rfl

theorem opening_eq_of_layout {j k : Json} (h : layout level j ++ rest = layout level k ++ other) :
    j.opening = k.opening := by
  have hh := congrArg List.head? h
  rw [head?_layout, head?_layout] at hh
  exact Option.some.inj hh

theorem eq_null_of_opening {j : Json} (h : j.opening = 'n') : j = null := by
  rcases j with _ | (_ | _) | _ | _ | _ <;> simp [opening] at h ⊢

theorem eq_bool_of_opening {j : Json} {value : Bool} (h : j.opening = (bool value).opening) :
    j = bool value := by
  cases value <;> rcases j with _ | (_ | _) | _ | _ | _ <;> simp [opening] at h ⊢

theorem exists_text_of_opening {j : Json} (h : j.opening = '"') : ∃ value, j = text value := by
  rcases j with _ | (_ | _) | _ | _ | _ <;> simp [opening] at h ⊢

theorem exists_list_of_opening {j : Json} (h : j.opening = '[') : ∃ items, j = list items := by
  rcases j with _ | (_ | _) | _ | _ | _ <;> simp [opening] at h ⊢

theorem exists_object_of_opening {j : Json} (h : j.opening = '\x7b') :
    ∃ entries, j = object entries := by
  rcases j with _ | (_ | _) | _ | _ | _ <;> simp [opening] at h ⊢

mutual

/-- A layout determines its value and where it ends. -/
theorem layout_append_inj (level : Nat) {rest other : List Char} :
    (j k : Json) → layout level j ++ rest = layout level k ++ other → j = k ∧ rest = other
  | .null, k, h => by
      obtain rfl := eq_null_of_opening (opening_eq_of_layout h).symm
      exact ⟨rfl, List.append_cancel_left h⟩
  | .bool value, k, h => by
      obtain rfl := eq_bool_of_opening (opening_eq_of_layout h).symm
      exact ⟨rfl, List.append_cancel_left h⟩
  | .text value, k, h => by
      obtain ⟨value', rfl⟩ := exists_text_of_opening (opening_eq_of_layout h).symm
      obtain ⟨hvalue, hrest⟩ := quote_append_inj h
      exact ⟨by rw [hvalue], hrest⟩
  | .list [], k, h => by
      obtain ⟨items', rfl⟩ := exists_list_of_opening (opening_eq_of_layout h).symm
      cases items' with
      | nil => exact ⟨rfl, List.append_cancel_left h⟩
      | cons item' items' => simp [layout, newLine] at h
  | .list (item :: items), k, h => by
      obtain ⟨items', rfl⟩ := exists_list_of_opening (opening_eq_of_layout h).symm
      cases items' with
      | nil => simp [layout, newLine] at h
      | cons item' items' =>
          simp only [layout, List.cons_append, List.append_assoc, List.cons.injEq, true_and,
            List.append_cancel_left_eq] at h
          obtain ⟨hitem, h⟩ := layout_append_inj (level + 1) item item' h
          obtain ⟨hitems, h⟩ := layoutItems_append_inj (level + 1) level items items' h
          exact ⟨by rw [hitem, hitems], (List.cons.inj h).2⟩
  | .object [], k, h => by
      obtain ⟨entries', rfl⟩ := exists_object_of_opening (opening_eq_of_layout h).symm
      cases entries' with
      | nil => exact ⟨rfl, List.append_cancel_left h⟩
      | cons entry' entries' => simp [layout, newLine] at h
  | .object ((key, item) :: entries), k, h => by
      obtain ⟨entries', rfl⟩ := exists_object_of_opening (opening_eq_of_layout h).symm
      cases entries' with
      | nil => simp [layout, newLine] at h
      | cons entry' entries' =>
          simp only [layout, List.cons_append, List.nil_append, List.append_assoc,
            List.cons.injEq, true_and, List.append_cancel_left_eq] at h
          obtain ⟨hkey, h⟩ := name_append_inj h
          obtain ⟨hitem, h⟩ := layout_append_inj (level + 1) item entry'.2 h
          obtain ⟨hentries, h⟩ := layoutEntries_append_inj (level + 1) level entries entries' h
          exact ⟨by rw [hkey, hitem, hentries], (List.cons.inj h).2⟩

/-- Items that a new line follows determine themselves. -/
theorem layoutItems_append_inj (level below : Nat) {rest other : List Char} :
    (items items' : List Json) →
      layoutItems level items ++ (newLine below ++ rest) =
          layoutItems level items' ++ (newLine below ++ other) →
      items = items' ∧ rest = other
  | [], items', h => by
      cases items' with
      | nil => exact ⟨rfl, List.append_cancel_left h⟩
      | cons item' items' => simp [layoutItems, newLine] at h
  | item :: items, items', h => by
      cases items' with
      | nil => simp [layoutItems, newLine] at h
      | cons item' items' =>
          simp only [layoutItems, List.cons_append, List.append_assoc, List.cons.injEq, true_and,
            List.append_cancel_left_eq] at h
          obtain ⟨hitem, h⟩ := layout_append_inj level item item' h
          obtain ⟨hitems, hrest⟩ := layoutItems_append_inj level below items items' h
          exact ⟨by rw [hitem, hitems], hrest⟩

/-- Entries that a new line follows determine themselves. -/
theorem layoutEntries_append_inj (level below : Nat) {rest other : List Char} :
    (entries entries' : List (String × Json)) →
      layoutEntries level entries ++ (newLine below ++ rest) =
          layoutEntries level entries' ++ (newLine below ++ other) →
      entries = entries' ∧ rest = other
  | [], entries', h => by
      cases entries' with
      | nil => exact ⟨rfl, List.append_cancel_left h⟩
      | cons entry' entries' => simp [layoutEntries, newLine] at h
  | (key, item) :: entries, entries', h => by
      cases entries' with
      | nil => simp [layoutEntries, newLine] at h
      | cons entry' entries' =>
          simp only [layoutEntries, List.cons_append, List.nil_append, List.append_assoc,
            List.cons.injEq, true_and, List.append_cancel_left_eq] at h
          obtain ⟨hkey, h⟩ := name_append_inj h
          obtain ⟨hitem, h⟩ := layout_append_inj level item entry'.2 h
          obtain ⟨hentries, hrest⟩ := layoutEntries_append_inj level below entries entries' h
          exact ⟨by rw [hkey, hitem, hentries], hrest⟩

end

/-- Documents with one text are equal. -/
theorem render_inj {j k : Json} (h : j.render = k.render) : j = k := by
  have hl : layout 0 j ++ [] = layout 0 k ++ [] := by
    rw [List.append_nil, List.append_nil]
    exact String.ofList_injective h
  exact (layout_append_inj 0 j k hl).1

end ProtocInvocation.Json
