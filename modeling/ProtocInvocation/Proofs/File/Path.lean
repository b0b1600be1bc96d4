import ProtocInvocation.File.Path
import ProtocInvocation.Proofs.Text.Cut

/-!
# What paths end in

A path ends in a name if nothing follows the name but slashes and single dots between them
(`Path.EndsIn`). The base name of a path is the name that it ends in, unless that leads back to the
directory above (`Path.baseName?_eq_some_iff`).
-/

namespace ProtocInvocation.Path

/-- Whether a text is a name that leads somewhere: it is not cut by a slash, and it is neither empty
nor the single dot. -/
def IsName (name : String) : Prop :=
  '/' ∉ name.toList ∧ name ≠ "" ∧ name ≠ "."

/-- Whether the last name in a path is this one. -/
inductive EndsIn : String → String → Prop
  | alone {name} : IsName name → EndsIn name name
  | under {above name} : IsName name → EndsIn (above ++ "/" ++ name) name
  | slash {path name} : EndsIn path name → EndsIn (path ++ "/") name
  | dot {path name} : EndsIn path name → EndsIn (path ++ "/.") name

variable {name path rest : String}

theorem EndsIn.isName (h : EndsIn path name) : IsName name := by
  induction h with
  | alone h => exact h
  | under h => exact h
  | slash _ ih => exact ih
  | dot _ ih => exact ih

theorem EndsIn.prepend (h : EndsIn path name) (above : String) :
    EndsIn (above ++ "/" ++ path) name := by
  induction h with
  | alone h => exact .under h
  | under h =>
      rw [← String.append_assoc, ← String.append_assoc]
      exact .under h
  | slash _ ih =>
      rw [← String.append_assoc]
      exact .slash ih
  | dot _ ih =>
      rw [← String.append_assoc]
      exact .dot ih

/-! ## Names in a path -/

theorem names_append (path rest : String) :
    names (path ++ "/" ++ rest) = names path ++ names rest := by
  rw [names, show "/" = String.singleton '/' from rfl, Text.pieces_append, List.filter_append]
  rfl

theorem names_of_notMem (h : '/' ∉ path.toList) :
    names path = if path ≠ "" ∧ path ≠ "." then [path] else [] := by
  rw [names, Text.pieces_of_notMem h]
  by_cases hp : path ≠ "" ∧ path ≠ "." <;> simp [hp]

theorem IsName.names_eq (h : IsName name) : names name = [name] := by
  rw [names_of_notMem h.1, if_pos h.2]

/-- A path without a slash that has no name in it is empty or the single dot. -/
theorem eq_of_names_eq_nil (h : '/' ∉ path.toList) (hn : names path = []) :
    path = "" ∨ path = "." := by
  rw [names_of_notMem h] at hn
  split at hn
  · cases hn
  · rename_i hp
    simpa only [not_and_or, not_not] using hp

/-! ## The last name -/

/-- What has no name in it can follow a path, which then ends as before. -/
theorem EndsIn.append (h : EndsIn path name) (hn : names rest = []) :
    EndsIn (path ++ "/" ++ rest) name := by
  induction rest using Text.cut_induction '/' generalizing path with
  | hw rest hr =>
      rcases eq_of_names_eq_nil hr hn with rfl | rfl
      · rw [String.append_empty]
        exact .slash h
      · rw [String.append_assoc]
        exact .dot h
  | hc first rest hf ih =>
      obtain ⟨hnf, hnr⟩ := List.append_eq_nil_iff.1 (names_append first rest ▸ hn)
      rw [← String.append_assoc, ← String.append_assoc]
      refine ih ?_ hnr
      rcases eq_of_names_eq_nil hf hnf with rfl | rfl
      · rw [String.append_empty]
        exact .slash h
      · rw [String.append_assoc]
        exact .dot h

theorem endsIn_iff : EndsIn path name ↔ (names path).getLast? = some name := by
  constructor
  · intro h
    induction h with
    | alone h => rw [h.names_eq, List.getLast?_singleton]
    | under h => rw [names_append, h.names_eq, List.getLast?_concat]
    | @slash path name _ ih =>
        have hpath : names (path ++ "/") = names path := by
          rw [← String.append_empty (s := path ++ "/"), names_append]
          exact List.append_nil _
        rw [hpath, ih]
    | @dot path name _ ih =>
        have hpath : names (path ++ "/.") = names path := by
          rw [show "/." = "/" ++ "." from rfl, ← String.append_assoc, names_append]
          exact List.append_nil _
        rw [hpath, ih]
  · intro h
    induction path using Text.cut_induction '/' with
    | hw path hp =>
        rw [names_of_notMem hp] at h
        split at h
        · rename_i hsome
          obtain rfl : path = name := by simpa using h
          exact .alone ⟨hp, hsome⟩
        · cases h
    | hc first rest hf ih =>
        change (names (first ++ "/" ++ rest)).getLast? = some name at h
        rw [names_append, List.getLast?_append] at h
        cases hr : (names rest).getLast? with
        | some last =>
            rw [hr, Option.some_or] at h
            exact (ih (hr.trans h)).prepend first
        | none =>
            rw [hr, Option.none_or, names_of_notMem hf] at h
            split at h
            · rename_i hsome
              obtain rfl : first = name := by simpa using h
              exact (EndsIn.alone ⟨hf, hsome⟩).append (List.getLast?_eq_none_iff.1 hr)
            · cases h

theorem EndsIn.unique {other : String} (h : EndsIn path name) (h' : EndsIn path other) :
    name = other :=
  Option.some.inj ((endsIn_iff.1 h).symm.trans (endsIn_iff.1 h'))

theorem exists_endsIn_iff : (∃ name, EndsIn path name) ↔ names path ≠ [] := by
  simp only [endsIn_iff, ← Option.ne_none_iff_exists', ne_eq, List.getLast?_eq_none_iff]

theorem baseName?_eq_some_iff : baseName? path = some name ↔ EndsIn path name ∧ name ≠ ".." := by
  rw [baseName?, Option.filter_eq_some_iff, ← endsIn_iff]
  simp

theorem baseName?_eq_none_iff :
    baseName? path = none ↔ ∀ name, EndsIn path name → name = ".." := by
  simp only [Option.eq_none_iff_forall_ne_some, ne_eq, baseName?_eq_some_iff, not_and, not_not]

end ProtocInvocation.Path
