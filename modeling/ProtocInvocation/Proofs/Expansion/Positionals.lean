import ProtocInvocation.Proofs.Argument.Own
import ProtocInvocation.Proofs.Expansion.Outcome

/-!
# Positional tokens and the tree of their vector

What positional tokens come to stands in the tree of their vector between what those before and
those behind them come to. So others can take their place, and the tree changes only there
(`ExpansionTree.IsOf.exists_replaced`). A reference comes to what stands below it in the tree of its
file (`ExpansionTree.below`).
-/

namespace ProtocInvocation

variable {files : FileSystem} {registry : FlagRegistry} {earlier later : List String}
  {before after : ExpansionContext}

theorem Branches.expansion_append (b c : Branches registry) :
    (b ++ c).expansion = b.expansion ++ c.expansion := by
  induction b with
  | done => exact (Expansion.default_append _).symm
  | file path later ih => rw [file_append, expansion, expansion, ih, Expansion.append_assoc]
  | reference path vector nested later _ ih =>
      rw [reference_append, expansion, expansion, ih, ← Expansion.append_assoc]

/-! ## What one reference comes to -/

namespace ExpansionTree

/-- `tree` is the tree of the arguments in the file `path`. -/
def IsOfFile (files : FileSystem) (path : String) (tree : ExpansionTree registry) : Prop :=
  ∃ lines, readArgumentFile files path = .ok lines ∧ tree.IsOf files lines

/-- What a reference to the file of a tree comes to. -/
def below (path : String) (tree : ExpansionTree registry) : Branches registry :=
  .reference path tree.root tree.branches .done

variable {path : String} {tree : ExpansionTree registry}

theorem references_below : (tree.below path).references = path :: tree.references := by
  simp [below, Branches.references, references]

theorem assignments_below : (tree.below path).assignments = tree.assignments := by
  rw [below, Branches.assignments_reference, assignments_eq]
  exact List.append_nil _

theorem reference?_sigil : reference? ("@" ++ path) = some path :=
  Text.dropLead?_eq_some_iff.2 rfl

theorem IsOfFile.unfold_below (h : tree.IsOfFile files path) :
    Branches.Unfold files ["@" ++ path] (tree.below path) := by
  obtain ⟨lines, hr, ht⟩ := h
  exact .reference reference?_sigil (ht.tokens_eq ▸ hr) ht.unfold .done

theorem exists_below_of_unfold {branches : Branches registry}
    (h : Branches.Unfold files ["@" ++ path] branches) :
    ∃ tree : ExpansionTree registry, tree.IsOfFile files path ∧ branches = tree.below path := by
  cases h with
  | file _ hn => cases hn.symm.trans reference?_sigil
  | @reference _ _ _ vector nested _ hr ht hn hl =>
      cases hl
      cases hr.symm.trans reference?_sigil
      exact ⟨⟨vector, nested⟩, ⟨vector.tokens, ht, rfl, hn⟩, rfl⟩

theorem IsOf.expands_ok_iff {tokens : List String} {e : Expansion} (h : tree.IsOf files tokens) :
    Expands files registry tokens before (.ok e, after) ↔
      before.Admits tree.references tree.assignments after ∧ e = tree.expansion := by
  rw [ProtocInvocation.expands_ok_iff]
  constructor
  · rintro ⟨tree', ht', hb, he⟩
    obtain rfl := ht'.unique h
    exact ⟨hb, he⟩
  · rintro ⟨hb, he⟩
    exact ⟨tree, h, hb, he⟩

end ExpansionTree

/-! ## Other tokens in their place -/

theorem ExpansionTree.IsOf.exists_replaced {tree : ExpansionTree registry} (middle : List String)
    (hv : ∀ spelling, Argument.classify registry earlier ≠ .error (.missingValue spelling))
    (hm : ∀ token ∈ middle, Argument.isDashed token = false)
    (h : tree.IsOf files (earlier ++ (middle ++ later))) :
    ∃ b c d, Branches.Unfold files middle c ∧ tree.branches = b ++ (c ++ d) ∧
      ∀ other c', (∀ token ∈ other, Argument.isDashed token = false) →
        Branches.Unfold files other c' →
        ∃ replaced : ExpansionTree registry, replaced.IsOf files (earlier ++ (other ++ later)) ∧
          replaced.root.own.settings = tree.root.own.settings ∧
          replaced.root.own.assignments = tree.root.own.assignments ∧
          replaced.branches = b ++ (c' ++ d) := by
  have hread := tree.root.read_tokens
  rw [h.tokens_eq] at hread
  obtain ⟨ps, qs, hpositionals, hother⟩ := OwnArguments.exists_read_of_append middle hv hm hread
  have hunfold := h.unfold
  rw [hpositionals] at hunfold
  obtain ⟨b, _, hb, hrest, hbranches⟩ := hunfold.exists_append ps
  obtain ⟨c, d, hc, hd, rfl⟩ := hrest.exists_append middle
  refine ⟨b, c, d, hc, hbranches, fun other c' ho hc' => ?_⟩
  obtain ⟨root, htokens, hown⟩ := ArgumentVector.exists_of_read (hother other ho)
  refine ⟨⟨root, b ++ (c' ++ d)⟩, ⟨htokens, ?_⟩, ?_, ?_, rfl⟩
  · rw [hown]
    exact hb.append (hc'.append hd)
  · rw [hown]
  · rw [hown]
    rfl

namespace ExpansionTree

variable {tree : ExpansionTree registry} {b c d : Branches registry}

theorem references_of_parts (h : tree.branches = b ++ (c ++ d)) :
    tree.references = b.references ++ (c.references ++ d.references) := by
  rw [references, h, Branches.references_append, Branches.references_append]

theorem assignments_of_parts (h : tree.branches = b ++ (c ++ d)) :
    tree.assignments = (tree.root.own.assignments ++ b.assignments) ++
      (c.assignments ++ d.assignments) := by
  rw [assignments_eq, h, Branches.assignments_append, Branches.assignments_append,
    List.append_assoc]

theorem expansion_of_parts (h : tree.branches = b ++ (c ++ d)) :
    tree.expansion = { settings := tree.root.own.settings } ++
      (b.expansion ++ (c.expansion ++ d.expansion)) := by
  rw [expansion, h, Branches.expansion_append, Branches.expansion_append]

end ExpansionTree

theorem Argument.isDashed_reference (path : String) : isDashed ("@" ++ path) = false := by
  simp [isDashed]

end ProtocInvocation
