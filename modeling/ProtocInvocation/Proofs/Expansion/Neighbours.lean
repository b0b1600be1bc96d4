import Mathlib.Control.Monad.Basic
import ProtocInvocation.Proofs.Expansion.Plugins
import ProtocInvocation.Proofs.Expansion.Positionals
import ProtocInvocation.Proofs.Plugin.Order

/-!
# Neighbouring references

Two references side by side expand the same files whichever comes first, and if both orders are
accepted the table is the same. They are not accepted alike: what a directive of the first tree
gives nothing to, a later one may still fill, and not the other way round. Main statement:
`expands_exchanged_iff`.
-/

namespace ProtocInvocation

open scoped List

variable {files : FileSystem} {registry : FlagRegistry} {earlier later : List String}
  {before after : ExpansionContext}

/-! ## What may be exchanged -/

/-- A directive gives nothing to the part it is for, and another gives that part a value. -/
structure Directive.IsFilledBy (d other : Directive) : Prop where
  plugin_eq : other.plugin = d.plugin
  given?_eq : d.given? d.kind.part = none
  given?_ne : other.given? d.kind.part ≠ none

namespace ExpansionTree

variable {tree first second : ExpansionTree registry} {a : Assignment} {d : Directive}

theorem ok_mem_assignments_iff (h : ∀ fault, .error fault ∉ tree.assignments) :
    .ok a ∈ tree.assignments ↔ (∃ d ∈ tree.directives, .ok a ∈ d.assignments) ∨
      ∃ value ∈ tree.pluginPaths, pathAssignment value = .ok a := by
  rw [(assignments_perm h).mem_iff, List.mem_append, List.mem_flatMap, List.mem_map]

theorem error_notMem_assignments_of_mem (h : ∀ fault, .error fault ∉ tree.assignments)
    (hd : d ∈ tree.directives) (fault : Fault) : .error fault ∉ d.assignments := by
  intro hm
  refine h fault ((assignments_perm h).mem_iff.2 (List.mem_append_left _ ?_))
  exact List.mem_flatMap.2 ⟨d, hd, hm⟩

/-- The part of a directive's kind is assigned, and every other to which the directive gives a
value. -/
theorem exists_mem_assignments (h : ∀ fault, .error fault ∉ tree.assignments)
    (hd : d ∈ tree.directives) {part : PluginPart}
    (hp : part = d.kind.part ∨ d.given? part ≠ none) :
    ∃ a, .ok a ∈ tree.assignments ∧ a.plugin = d.plugin ∧ a.part = part ∧
      a.given? = d.given? part := by
  have hfault := error_notMem_assignments_of_mem h hd
  have ha := (Directive.ok_mem_assignments_iff hfault).2 ⟨part, hp, rfl⟩
  exact ⟨_, (ok_mem_assignments_iff h).2 (.inl ⟨d, hd, ha⟩), rfl, rfl,
    Directive.given?_of_mem_assignments hfault ha⟩

/-- Assignments to other parts than the path come from directives. -/
theorem exists_mem_directives (h : ∀ fault, .error fault ∉ tree.assignments)
    (ha : .ok a ∈ tree.assignments) (hp : a.part ≠ .path) :
    ∃ d ∈ tree.directives, a.plugin = d.plugin ∧ a.given? = d.given? a.part ∧
      (a.part = d.kind.part ∨ a.given? ≠ none) := by
  rcases (ok_mem_assignments_iff h).1 ha with ⟨d, hd, hda⟩ | ⟨value, _, hv⟩
  · have hfault := error_notMem_assignments_of_mem h hd
    refine ⟨d, hd, Directive.plugin_of_mem_assignments hda,
      Directive.given?_of_mem_assignments hfault hda, ?_⟩
    rw [Directive.given?_of_mem_assignments hfault hda]
    obtain ⟨part, hpart, rfl⟩ := (Directive.ok_mem_assignments_iff hfault).1 hda
    exact hpart
  · obtain ⟨_, hpath⟩ := eq_of_pathAssignment hv
    exact absurd (by rw [hpath]) hp

/-- If one tree may be recorded before another, this one may be recorded before it if and only if no
directive of the one is filled by one of the other. -/
theorem forall_given?_eq_none_iff (hf : ∀ fault, .error fault ∉ first.assignments)
    (hs : ∀ fault, .error fault ∉ second.assignments)
    (ho : ∀ a b, .ok a ∈ first.assignments → .ok b ∈ second.assignments → a.SamePart b →
      a.given? = none) :
    (∀ b a, .ok b ∈ second.assignments → .ok a ∈ first.assignments → b.SamePart a →
      b.given? = none) ↔
      ∀ d ∈ first.directives, ∀ d' ∈ second.directives, ¬d.IsFilledBy d' := by
  constructor
  · intro h d hd d' hd' hfill
    obtain ⟨a, ha, hap, haq, _⟩ := exists_mem_assignments hf hd (.inl rfl)
    obtain ⟨b, hb, hbp, hbq, hbg⟩ := exists_mem_assignments hs hd' (.inr hfill.given?_ne)
    refine hfill.given?_ne (hbg ▸ h b a hb ha ⟨?_, ?_⟩)
    · rw [hbp, hap, hfill.plugin_eq]
    · rw [hbq, haq]
  · intro h b a hb ha hsame
    have hnone : a.given? = none := ho a b ha hb hsame.symm
    -- a path always gives a value
    have hpath : a.part ≠ .path := by
      intro hp
      simp [Assignment.given?, hp, PluginPart.read] at hnone
    obtain ⟨d, hd, hap, hag, haq⟩ := exists_mem_directives hf ha hpath
    obtain ⟨d', hd', hbp, hbg, _⟩ := exists_mem_directives hs hb (hsame.2 ▸ hpath)
    have hpart : a.part = d.kind.part := haq.resolve_right (not_not.2 hnone)
    by_contra hgiven
    refine h d hd d' hd' ⟨?_, ?_, ?_⟩
    · rw [← hbp, ← hap, hsame.1]
    · rw [← hpart, ← hag, hnone]
    · rwa [← hpart, ← hsame.2, ← hbg]

end ExpansionTree

/-! ## The other order -/

theorem ExpansionContext.exists_admits_exchange_iff {ps fs gs qs : List String}
    {as bs cs ds : List (Except Fault Assignment)}
    (h : before.Admits (ps ++ (fs ++ (gs ++ qs))) (as ++ (bs ++ (cs ++ ds))) after) :
    (∃ after', before.Admits (ps ++ (gs ++ (fs ++ qs))) (as ++ (cs ++ (bs ++ ds))) after') ↔
      ∀ b a, .ok b ∈ cs → .ok a ∈ bs → b.SamePart a → b.given? = none := by
  rw [← PluginTable.exists_record_exchange_iff h.record_eq]
  constructor
  · rintro ⟨after', h'⟩
    exact ⟨_, h'.record_eq⟩
  · rintro ⟨plugins, hr⟩
    refine ⟨⟨before.visited ++ (ps ++ (gs ++ (fs ++ qs))), plugins⟩, fun path hm => ?_, ?_, rfl, hr⟩
    · exact h.notMem_visited path (perm_exchange.mem_iff.1 hm)
    · exact perm_exchange.nodup_iff.1 h.nodup

/-- The tree of a vector with two references side by side, and that with the two exchanged: they
differ in the order of what stands below the references. -/
theorem ExpansionTree.IsOf.exists_exchanged {tree : ExpansionTree registry} {f g : String}
    (hv : ∀ spelling, Argument.classify registry earlier ≠ .error (.missingValue spelling))
    (h : tree.IsOf files (earlier ++ ("@" ++ f) :: ("@" ++ g) :: later)) :
    ∃ exchanged first second : ExpansionTree registry, ∃ c d : Branches registry,
      exchanged.IsOf files (earlier ++ ("@" ++ g) :: ("@" ++ f) :: later) ∧
      first.IsOfFile files f ∧ second.IsOfFile files g ∧
      exchanged.root.own.assignments = tree.root.own.assignments ∧
      tree.branches = c ++ (first.below f ++ (second.below g ++ d)) ∧
      exchanged.branches = c ++ (second.below g ++ (first.below f ++ d)) := by
  have hdash (path path' : String) :
      ∀ token ∈ ["@" ++ path, "@" ++ path'], Argument.isDashed token = false := by
    simp [Argument.isDashed_reference]
  obtain ⟨c, _, d, hmiddle, hbranches, hother⟩ :=
    h.exists_replaced ["@" ++ f, "@" ++ g] hv (hdash f g)
  obtain ⟨_, _, hf, hg, rfl⟩ := hmiddle.exists_append ["@" ++ f]
  obtain ⟨first, hfirst, rfl⟩ := exists_below_of_unfold hf
  obtain ⟨second, hsecond, rfl⟩ := exists_below_of_unfold hg
  obtain ⟨exchanged, hx, _, hown, hxbranches⟩ :=
    hother _ _ (hdash g f) (hsecond.unfold_below.append hfirst.unfold_below)
  rw [Branches.append_assoc] at hbranches hxbranches
  exact ⟨exchanged, first, second, c, d, hx, hfirst, hsecond, hown, hbranches, hxbranches⟩

namespace ExpansionTree

variable {tree first second : ExpansionTree registry} {c d : Branches registry} {f g : String}

theorem references_of_branches
    (h : tree.branches = c ++ (first.below f ++ (second.below g ++ d))) :
    tree.references = c.references ++
      ((f :: first.references) ++ ((g :: second.references) ++ d.references)) := by
  rw [references_of_parts h, Branches.references_append, references_below, references_below]

theorem assignments_of_branches
    (h : tree.branches = c ++ (first.below f ++ (second.below g ++ d))) :
    tree.assignments = (tree.root.own.assignments ++ c.assignments) ++
      (first.assignments ++ (second.assignments ++ d.assignments)) := by
  rw [assignments_of_parts h, Branches.assignments_append, assignments_below, assignments_below]

end ExpansionTree

/-- Two references side by side in an accepted vector can be exchanged if and only if no directive
in the tree of the first is filled by one in the tree of the second, and then the table is the
same. -/
theorem expands_exchanged_iff {f g : String} {e : Expansion}
    (hv : ∀ spelling, Argument.classify registry earlier ≠ .error (.missingValue spelling))
    (h : Expands files registry (earlier ++ ("@" ++ f) :: ("@" ++ g) :: later) before
      (.ok e, after)) :
    ∃ first second : ExpansionTree registry, first.IsOfFile files f ∧ second.IsOfFile files g ∧
      ((∃ e' after', Expands files registry (earlier ++ ("@" ++ g) :: ("@" ++ f) :: later) before
        (.ok e', after')) ↔
          ∀ d ∈ first.directives, ∀ d' ∈ second.directives, ¬d.IsFilledBy d') ∧
      ∀ e' after', Expands files registry (earlier ++ ("@" ++ g) :: ("@" ++ f) :: later) before
        (.ok e', after') → after'.plugins = after.plugins := by
  obtain ⟨tree, ht, hb, _⟩ := expands_ok_iff.1 h
  obtain ⟨exchanged, first, second, c, d, hx, hfirst, hsecond, hown, hbranches, hxbranches⟩ :=
    ht.exists_exchanged hv
  rw [ExpansionTree.references_of_branches hbranches,
    ExpansionTree.assignments_of_branches hbranches] at hb
  have hadmits (after' : ExpansionContext) :
      before.Admits exchanged.references exchanged.assignments after' ↔
        before.Admits (c.references ++ ((g :: second.references) ++ ((f :: first.references) ++
          d.references))) ((tree.root.own.assignments ++ c.assignments) ++
            (second.assignments ++ (first.assignments ++ d.assignments))) after' := by
    rw [ExpansionTree.references_of_branches hxbranches,
      ExpansionTree.assignments_of_branches hxbranches, hown]
  refine ⟨first, second, hfirst, hsecond, ?_, fun e' after' h' => ?_⟩
  · obtain ⟨hfault, _, hpair⟩ := PluginTable.exists_record_iff.1 ⟨_, hb.record_eq⟩
    have hnone : ∀ a b, .ok a ∈ first.assignments → .ok b ∈ second.assignments → a.SamePart b →
        a.given? = none := by
      intro a b ha hb hs
      have hsides := (List.pairwise_append.1 (List.pairwise_append.1 hpair).2.1).2.2
      exact hsides _ ha _ (List.mem_append_left _ hb) a b rfl rfl hs
    rw [← ExpansionTree.forall_given?_eq_none_iff (fun fault hm => hfault fault (by simp [hm]))
      (fun fault hm => hfault fault (by simp [hm])) hnone,
      ← ExpansionContext.exists_admits_exchange_iff hb]
    simp only [hx.expands_ok_iff, hadmits]
    constructor
    · rintro ⟨_, after', hb', _⟩
      exact ⟨after', hb'⟩
    · rintro ⟨after', hb'⟩
      exact ⟨_, after', hb', rfl⟩
  · obtain ⟨hb', _⟩ := hx.expands_ok_iff.1 h'
    have hr := ((hadmits after').1 hb').record_eq
    exact PluginTable.eq_of_record_perm perm_exchange hr hb.record_eq

/-- An output directive without a value goes through before one with a value, and not behind it. -/
theorem expands_exchanged_iff_valueless :
    Expands (FileStore.ofAnswers [("f", .ok "--go_out="), ("g", .ok "--go_out=gen")]).toFileSystem
        .builtin ["@f", "@g", "a.proto"] default
        (.ok ⟨{}, ["a.proto"]⟩, ⟨["f", "g"], ⟨[("go", ⟨"gen", none, none⟩)], by decide⟩⟩) ∧
      Expands (FileStore.ofAnswers [("f", .ok "--go_out="), ("g", .ok "--go_out=gen")]).toFileSystem
        .builtin ["@g", "@f", "a.proto"] default
        (.error (.duplicateOut "go"), ⟨["g", "f"], ⟨[("go", ⟨"gen", none, none⟩)], by decide⟩⟩) ∧
      ∃ first second : ExpansionTree .builtin,
        first.IsOfFile (FileStore.ofAnswers [("f", .ok "--go_out="),
          ("g", .ok "--go_out=gen")]).toFileSystem "f" ∧
        second.IsOfFile (FileStore.ofAnswers [("f", .ok "--go_out="),
          ("g", .ok "--go_out=gen")]).toFileSystem "g" ∧
        ∃ d ∈ first.directives, ∃ d' ∈ second.directives, d.IsFilledBy d' := by
  have h : Expands (FileStore.ofAnswers [("f", .ok "--go_out="),
      ("g", .ok "--go_out=gen")]).toFileSystem .builtin
      ([] ++ ("@" ++ "f") :: ("@" ++ "g") :: ["a.proto"]) default
      (.ok ⟨{}, ["a.proto"]⟩, ⟨["f", "g"], ⟨[("go", ⟨"gen", none, none⟩)], by decide⟩⟩) :=
    expands_iff.2 (by decide +kernel)
  have h' : Expands (FileStore.ofAnswers [("f", .ok "--go_out="),
      ("g", .ok "--go_out=gen")]).toFileSystem .builtin ["@g", "@f", "a.proto"] default
      (.error (.duplicateOut "go"), ⟨["g", "f"], ⟨[("go", ⟨"gen", none, none⟩)], by decide⟩⟩) :=
    expands_iff.2 (by decide +kernel)
  obtain ⟨first, second, hf, hg, hiff, _⟩ := expands_exchanged_iff (fun _ he => by cases he) h
  refine ⟨h, h', first, second, hf, hg, ?_⟩
  by_contra hnone
  obtain ⟨e, after, hx⟩ := hiff.2 fun d hd d' hd' hfill => hnone ⟨d, hd, d', hd', hfill⟩
  cases hx.unique h'

end ProtocInvocation
