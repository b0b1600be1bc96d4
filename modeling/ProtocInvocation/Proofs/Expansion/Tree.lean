import ProtocInvocation.Expansion.Basic
import ProtocInvocation.Fallible
import ProtocInvocation.Proofs.Settings.Merge

/-!
# Expansion trees

The vectors of one expansion form a tree: below a vector stand the vectors of the argument files
that its positional arguments refer to. A tree is data, and `ExpansionTree.IsOf` says which tree a
vector has in a file system; there is at most one (`ExpansionTree.IsOf.unique`). The tree knows
nothing of contexts, so references may repeat in it and assignments may clash.
-/

namespace ProtocInvocation

variable {files : FileSystem} {registry : FlagRegistry}

/-! ## Vectors -/

/-- A vector that can be read: its tokens, the arguments in them and what those say. -/
structure ArgumentVector (registry : FlagRegistry) where
  tokens : List String
  arguments : List Argument
  own : OwnArguments
  classify_tokens : Argument.classify registry tokens = .ok arguments
  ofArguments_arguments : OwnArguments.ofArguments arguments = .ok own

namespace ArgumentVector

variable {v w : ArgumentVector registry}

/-- The directives of a vector, in order. -/
def directives (v : ArgumentVector registry) : List Directive :=
  v.arguments.filterMap Argument.directive?

theorem read_tokens (v : ArgumentVector registry) :
    OwnArguments.read registry v.tokens = .ok v.own :=
  bind_eq_ok_iff.2 ⟨v.arguments, v.classify_tokens, v.ofArguments_arguments⟩

theorem directives_eq_of_classify (v : ArgumentVector registry) {found : List Argument}
    (h : Argument.classify registry v.tokens = .ok found) :
    v.directives = found.filterMap Argument.directive? := by
  rw [directives, Except.ok.inj (v.classify_tokens.symm.trans h)]

theorem exists_of_read {tokens : List String} {own : OwnArguments}
    (h : OwnArguments.read registry tokens = .ok own) :
    ∃ v : ArgumentVector registry, v.tokens = tokens ∧ v.own = own := by
  obtain ⟨arguments, hc, ho⟩ := bind_eq_ok_iff.1 h
  exact ⟨⟨tokens, arguments, own, hc, ho⟩, rfl, rfl⟩

theorem ofArguments_eq (v : ArgumentVector registry) :
    ∃ settings, v.arguments.foldlM Argument.bind default = .ok settings ∧
      v.own = ⟨settings, .ofList v.directives, v.arguments.filterMap Argument.positional?⟩ := by
  obtain ⟨settings, hs, he⟩ := bind_eq_ok_iff.1 v.ofArguments_arguments
  exact ⟨settings, hs, (Except.ok.inj he).symm⟩

theorem foldlM_bind (v : ArgumentVector registry) :
    v.arguments.foldlM Argument.bind default = .ok v.own.settings := by
  obtain ⟨settings, hs, he⟩ := v.ofArguments_eq
  rw [hs, he]

theorem own_log (v : ArgumentVector registry) : v.own.log = .ofList v.directives := by
  obtain ⟨settings, _, he⟩ := v.ofArguments_eq
  rw [he]

theorem eq_of_tokens_eq (h : v.tokens = w.tokens) : v = w := by
  obtain ⟨tokens, arguments, own, hc, ho⟩ := v
  obtain ⟨tokens', arguments', own', hc', ho'⟩ := w
  obtain rfl : tokens = tokens' := h
  obtain rfl : arguments = arguments' := Except.ok.inj (hc.symm.trans hc')
  obtain rfl : own = own' := Except.ok.inj (ho.symm.trans ho')
  rfl

end ArgumentVector

/-! ## Trees -/

/-- What the positional arguments of a vector come to, one after another. -/
inductive Branches (registry : FlagRegistry) where
  /-- There are no more. -/
  | done
  /-- A file to compile comes first. -/
  | file (path : String) (later : Branches registry)
  /-- A reference comes first: the vector in its file, and what that one's arguments come to. -/
  | reference (path : String) (vector : ArgumentVector registry) (nested later : Branches registry)

/-- A vector with all vectors below it. -/
structure ExpansionTree (registry : FlagRegistry) where
  root : ArgumentVector registry
  branches : Branches registry

namespace Branches

/-- The vectors, each before those below it. -/
def vectors : Branches registry → List (ArgumentVector registry)
  | done => []
  | file _ later => later.vectors
  | reference _ vector nested later => vector :: (nested.vectors ++ later.vectors)

/-- The paths referred to, each before those in its file. -/
def references : Branches registry → List String
  | done => []
  | file _ later => later.references
  | reference path _ nested later => path :: (nested.references ++ later.references)

/-- How deep files are nested. -/
def depth : Branches registry → Nat
  | done => 0
  | file _ later => later.depth
  | reference _ _ nested later => max (nested.depth + 1) later.depth

/-- What the vectors give, merged from below. -/
def expansion : Branches registry → Expansion
  | done => default
  | file path later => { filePaths := [path] } ++ later.expansion
  | reference _ vector nested later =>
    ({ settings := vector.own.settings } ++ nested.expansion) ++ later.expansion

/-- What the vectors assign to plugins, in order. -/
def assignments (branches : Branches registry) : List (Except Fault Assignment) :=
  branches.vectors.flatMap fun v => v.own.assignments

theorem references_reference {path : String} {vector : ArgumentVector registry}
    {nested later : Branches registry} :
    (reference path vector nested later).references =
      (path :: nested.references) ++ later.references := rfl

theorem assignments_reference {path : String} {vector : ArgumentVector registry}
    {nested later : Branches registry} :
    (reference path vector nested later).assignments =
      (vector.own.assignments ++ nested.assignments) ++ later.assignments := by
  simp [assignments, vectors]

/-- In `files` the positional arguments of a vector come to these branches. -/
inductive Unfold (files : FileSystem) : List String → Branches registry → Prop
  | done : Unfold files [] .done
  | file {argument : String} {arguments : List String} {later : Branches registry} :
      argument ≠ "" → reference? argument = none → Unfold files arguments later →
      Unfold files (argument :: arguments) (.file argument later)
  | reference {argument path : String} {arguments : List String} {vector : ArgumentVector registry}
      {nested later : Branches registry} :
      reference? argument = some path → readArgumentFile files path = .ok vector.tokens →
      Unfold files vector.own.positionals nested → Unfold files arguments later →
      Unfold files (argument :: arguments) (.reference path vector nested later)

theorem Unfold.unique {arguments : List String} {b c : Branches registry}
    (hb : Unfold files arguments b) (hc : Unfold files arguments c) : b = c := by
  induction hb generalizing c with
  | done =>
      cases hc
      rfl
  | file _ hn _ ih =>
      cases hc with
      | file _ _ hl => rw [ih hl]
      | reference hr => rw [hn] at hr; cases hr
  | @reference _ _ _ vector _ _ hr ht _ _ ihn ihl =>
      cases hc with
      | file _ hn => rw [hn] at hr; cases hr
      | @reference _ _ _ vector' _ _ hr' ht' hn' hl' =>
          rw [hr, Option.some.injEq] at hr'
          subst hr'
          rw [ht, Except.ok.injEq] at ht'
          obtain rfl : vector = vector' := ArgumentVector.eq_of_tokens_eq ht'
          rw [ihn hn', ihl hl']

/-! ### Joining branches -/

/-- What arguments come to, with what later arguments come to behind it. -/
def append : Branches registry → Branches registry → Branches registry
  | done, behind => behind
  | file path later, behind => file path (later.append behind)
  | reference path vector nested later, behind =>
    reference path vector nested (later.append behind)

instance : Append (Branches registry) := ⟨append⟩

variable {b c d : Branches registry} {xs ys : List String}

theorem file_append {path : String} : file path b ++ c = file path (b ++ c) := rfl

theorem reference_append {path : String} {vector : ArgumentVector registry}
    {nested : Branches registry} :
    reference path vector nested b ++ c = reference path vector nested (b ++ c) := rfl

theorem append_assoc : b ++ c ++ d = b ++ (c ++ d) := by
  induction b with
  | done => rfl
  | file path later ih => rw [file_append, file_append, file_append, ih]
  | reference path vector nested later _ ih =>
      rw [reference_append, reference_append, reference_append, ih]

theorem vectors_append : (b ++ c).vectors = b.vectors ++ c.vectors := by
  induction b with
  | done => rfl
  | file path later ih => rw [file_append, vectors, vectors, ih]
  | reference path vector nested later _ ih =>
      rw [reference_append, vectors, vectors, ih, List.cons_append, List.append_assoc]

theorem references_append : (b ++ c).references = b.references ++ c.references := by
  induction b with
  | done => rfl
  | file path later ih => rw [file_append, references, references, ih]
  | reference path vector nested later _ ih =>
      rw [reference_append, references, references, ih, List.cons_append, List.append_assoc]

theorem assignments_append : (b ++ c).assignments = b.assignments ++ c.assignments := by
  simp [assignments, vectors_append]

theorem Unfold.append (hb : Unfold files xs b) (hc : Unfold files ys c) :
    Unfold files (xs ++ ys) (b ++ c) := by
  induction hb with
  | done => exact hc
  | file hne hr _ ih => exact .file hne hr ih
  | reference hr ht hn _ _ ih => exact .reference hr ht hn ih

theorem Unfold.exists_append (xs : List String) (h : Unfold files (xs ++ ys) b) :
    ∃ c d, Unfold files xs c ∧ Unfold files ys d ∧ b = c ++ d := by
  induction xs generalizing b with
  | nil => exact ⟨.done, b, .done, h, rfl⟩
  | cons x xs ih =>
      rw [List.cons_append] at h
      cases h with
      | file hne hr hl =>
          obtain ⟨c, d, hc, hd, rfl⟩ := ih hl
          exact ⟨.file x c, d, .file hne hr hc, hd, rfl⟩
      | reference hr ht hn hl =>
          obtain ⟨c, d, hc, hd, rfl⟩ := ih hl
          exact ⟨.reference _ _ _ c, d, .reference hr ht hn hc, hd, rfl⟩

end Branches

namespace ExpansionTree

/-- All vectors of the tree, each before those below it. -/
def vectors (tree : ExpansionTree registry) : List (ArgumentVector registry) :=
  tree.root :: tree.branches.vectors

/-- The paths referred to in the tree, each before those in its file. -/
def references (tree : ExpansionTree registry) : List String :=
  tree.branches.references

/-- What all vectors of the tree give, merged from below. -/
def expansion (tree : ExpansionTree registry) : Expansion :=
  { settings := tree.root.own.settings } ++ tree.branches.expansion

/-- What all vectors of the tree assign to plugins, in order. -/
def assignments (tree : ExpansionTree registry) : List (Except Fault Assignment) :=
  tree.vectors.flatMap fun v => v.own.assignments

/-- The directives of all vectors of the tree, in order. -/
def directives (tree : ExpansionTree registry) : List Directive :=
  tree.vectors.flatMap ArgumentVector.directives

/-- `tree` is the tree that `tokens` have in `files`. -/
structure IsOf (files : FileSystem) (tokens : List String) (tree : ExpansionTree registry) :
    Prop where
  tokens_eq : tree.root.tokens = tokens
  unfold : Branches.Unfold files tree.root.own.positionals tree.branches

theorem IsOf.unique {tokens : List String} {t u : ExpansionTree registry}
    (ht : t.IsOf files tokens) (hu : u.IsOf files tokens) : t = u := by
  obtain ⟨root, branches⟩ := t
  obtain ⟨root', branches'⟩ := u
  obtain rfl : root = root' :=
    ArgumentVector.eq_of_tokens_eq (ht.tokens_eq.trans hu.tokens_eq.symm)
  obtain rfl : branches = branches' := ht.unfold.unique hu.unfold
  rfl

theorem assignments_eq (tree : ExpansionTree registry) :
    tree.assignments = tree.root.own.assignments ++ tree.branches.assignments :=
  List.flatMap_cons

end ExpansionTree

end ProtocInvocation
