import Mathlib.Control.Monad.Basic
import ProtocInvocation.Proofs.Argument.Faults
import ProtocInvocation.Proofs.Argument.Own
import ProtocInvocation.Proofs.Argument.Spelling
import ProtocInvocation.Proofs.Expansion.Outcome
import ProtocInvocation.Proofs.Plugin.Order

/-!
# Vectors that expand alike

An expansion looks at the directives of a vector only through what they assign, so vectors that
agree in everything else are interchangeable if their directives assign the same in any order
(`Interchangeable.of_classify`). Main statements: `expandAlike_of_perm`, by which directives may
stand in any order and anywhere among the other arguments, and `expandAlike_split`, by which options
before the colon of an output directive can as well be given by a directive of their own.
-/

namespace ProtocInvocation

open scoped List

variable {files : FileSystem} {registry : FlagRegistry} {tokens other : List String}
  {before : ExpansionContext}

/-- Two vectors expand alike from a context on: they give the same and leave the same behind, or
both end with a fault. -/
structure ExpandAlike (files : FileSystem) (registry : FlagRegistry) (before : ExpansionContext)
    (tokens other : List String) : Prop where
  ok_iff : ∀ e after, Expands files registry tokens before (.ok e, after) ↔
    Expands files registry other before (.ok e, after)
  error_iff : (∃ fault after, Expands files registry tokens before (.error fault, after)) ↔
    ∃ fault after, Expands files registry other before (.error fault, after)

/-- Two vectors are interchangeable from a context on: whatever value or fault one of them ends
with, the other ends with too and in the same context, unless each of them has an assignment of its
own refused. -/
def Interchangeable (files : FileSystem) (registry : FlagRegistry) (before : ExpansionContext)
    (tokens other : List String) : Prop :=
  (∀ outcome, Expands files registry tokens before outcome ↔
    Expands files registry other before outcome) ∨
  (∃ fault after, RefusedItself registry tokens before fault after ∧ fault.stage = .assigning) ∧
    ∃ fault after, RefusedItself registry other before fault after ∧ fault.stage = .assigning

theorem Interchangeable.expandAlike (h : Interchangeable files registry before tokens other) :
    ExpandAlike files registry before tokens other := by
  rcases h with h | ⟨⟨fault, after, hr, _⟩, fault', after', hr', _⟩
  · exact ⟨fun e after => h _, exists₂_congr fun fault after => h _⟩
  · refine ⟨fun e last => ⟨fun he => ?_, fun he => ?_⟩,
      iff_of_true ⟨_, _, hr.expands files⟩ ⟨_, _, hr'.expands files⟩⟩
    · cases he.unique (hr.expands files)
    · cases he.unique (hr'.expands files)

/-- In a file store, where every expansion ends, the two end alike or both with a fault. -/
theorem Interchangeable.expand_eq_or {store : FileStore}
    (h : Interchangeable store.toFileSystem registry before tokens other) :
    expand store registry tokens before = expand store registry other before ∨
      (∃ fault after, expand store registry tokens before = (.error fault, after)) ∧
        ∃ fault after, expand store registry other before = (.error fault, after) := by
  rcases h with h | ⟨⟨fault, after, hr, _⟩, fault', after', hr', _⟩
  · exact .inl (expands_iff.1 ((h _).2 (expands_iff.2 rfl)))
  · exact .inr ⟨⟨fault, after, expands_iff.1 (hr.expands _)⟩,
      fault', after', expands_iff.1 (hr'.expands _)⟩

theorem Interchangeable.of_read_error {fault : Fault}
    (h : OwnArguments.read registry tokens = .error fault)
    (h' : OwnArguments.read registry other = .error fault) :
    Interchangeable files registry before tokens other := by
  have hr : RefusedItself registry tokens before fault before := .reading h
  have hr' : RefusedItself registry other before fault before := .reading h'
  exact .inl fun outcome => ⟨fun he => he.unique (hr.expands files) ▸ hr'.expands files,
    fun he => he.unique (hr'.expands files) ▸ hr.expands files⟩

/-! ## Vectors that say alike -/

/-- What two vectors say is the same, and what they say of plugins is recorded alike. -/
structure OwnArguments.SaysAlike (own own' : OwnArguments) : Prop where
  settings_eq : own.settings = own'.settings
  positionals_eq : own.positionals = own'.positionals
  recorded : RecordedAlike own.assignments own'.assignments

/-- What a vector says of plugins matters only by what is recorded of it. -/
theorem Interchangeable.of_saysAlike {own own' : OwnArguments}
    (h : OwnArguments.read registry tokens = .ok own)
    (h' : OwnArguments.read registry other = .ok own') (hs : own.SaysAlike own') :
    Interchangeable files registry before tokens other := by
  obtain ⟨result, plugins, hr⟩ : ∃ result plugins,
      before.plugins.record own.assignments = (result, plugins) := ⟨_, _, rfl⟩
  obtain ⟨result', plugins', hr'⟩ : ∃ result plugins,
      before.plugins.record own'.assignments = (result, plugins) := ⟨_, _, rfl⟩
  cases result with
  | error fault =>
      cases result' with
      | error fault' =>
          have hstage := OwnArguments.stage_of_record (congrArg Prod.fst hr)
          have hstage' := OwnArguments.stage_of_record (congrArg Prod.fst hr')
          exact .inr ⟨⟨fault, _, .assigning h hr, hstage⟩, fault', _, .assigning h' hr', hstage'⟩
      | ok => cases hr.symm.trans ((hs.recorded _ _).2 hr')
  | ok =>
      -- both go on alike from the same table
      have hsame := (hs.recorded _ _).1 hr
      refine .inl fun outcome => exists_congr fun depth => ?_
      cases depth with
      | zero => exact Iff.rfl
      | succ depth =>
          rw [expandWithin_succ h, expandWithin_succ h', hs.settings_eq, hs.positionals_eq]
          simp only [Expanding.run_bind_eq_some_iff, Expanding.run_record, hr, hsame]

/-! ## Directives among other arguments -/

namespace Argument

/-- The arguments of a vector that are no directives. -/
def others (arguments : List Argument) : List Argument :=
  arguments.filter fun a => a.directive?.isNone

variable {arguments : List Argument}

theorem filterMap_directive?_map (ds : List Directive) :
    (ds.map directive).filterMap directive? = ds := by
  rw [List.filterMap_map]
  exact List.filterMap_some

theorem others_append {later : List Argument} :
    others (arguments ++ later) = others arguments ++ others later :=
  List.filter_append _ _

theorem others_map_directive (ds : List Directive) : others (ds.map directive) = [] := by
  simp [others, directive?]

theorem foldlM_bind_others {s : Settings} :
    (others arguments).foldlM bind s = arguments.foldlM bind s := by
  induction arguments generalizing s with
  | nil => rfl
  | cons a arguments ih =>
      by_cases ha : a.directive?.isNone
      · rw [others, List.filter_cons, if_pos ha, List.foldlM_cons, List.foldlM_cons]
        exact bind_congr fun t => ih
      · have hb : a.bind s = .ok s := by
          cases a with
          | directive d => rfl
          | flag field spelling value => exact absurd rfl ha
          | positional text => exact absurd rfl ha
        rw [others, List.filter_cons, if_neg ha, List.foldlM_cons, hb]
        exact ih

theorem filterMap_positional?_others :
    (others arguments).filterMap positional? = arguments.filterMap positional? := by
  rw [others, List.filterMap_filter]
  refine List.filterMap_congr fun a _ => ?_
  cases a <;> rfl

end Argument

/-- Directives may stand anywhere among the other arguments and in any order, and may be put
together in any way that assigns the same. -/
theorem Interchangeable.of_classify {found found' : List Argument}
    (h : Argument.classify registry tokens = .ok found)
    (h' : Argument.classify registry other = .ok found')
    (ho : Argument.others found = Argument.others found')
    (hd : (found.filterMap Argument.directive?).flatMap Directive.assignments ~
      (found'.filterMap Argument.directive?).flatMap Directive.assignments) :
    Interchangeable files registry before tokens other := by
  have hread := OwnArguments.read_eq_of_classify h
  have hread' := OwnArguments.read_eq_of_classify h'
  have hbind : found.foldlM Argument.bind default = found'.foldlM Argument.bind default := by
    rw [← Argument.foldlM_bind_others, ho, Argument.foldlM_bind_others]
  cases hb : found.foldlM Argument.bind default with
  | error fault =>
      rw [OwnArguments.ofArguments_eq_error hb] at hread
      rw [OwnArguments.ofArguments_eq_error (hbind.symm.trans hb)] at hread'
      exact .of_read_error hread hread'
  | ok settings =>
      rw [OwnArguments.ofArguments_eq_ok hb] at hread
      rw [OwnArguments.ofArguments_eq_ok (hbind.symm.trans hb)] at hread'
      refine .of_saysAlike hread hread' ⟨rfl, ?_, .append_right ?_ _⟩
      · simp only
        rw [← Argument.filterMap_positional?_others, ho, Argument.filterMap_positional?_others]
      · exact DirectiveLog.recordedAlike_of_perm hd

/-- The order of the directives in a vector and their places among its other arguments do not
matter: vectors that differ only in these give the same and leave the same behind, or both are
refused. The fault is the same too, unless it is that of an assignment of the vector itself: then it
may be another directive that is found first. -/
theorem expandAlike_of_perm {found found' : List Argument}
    (h : Argument.classify registry tokens = .ok found)
    (h' : Argument.classify registry other = .ok found')
    (ho : Argument.others found = Argument.others found')
    (hd : found.filterMap Argument.directive? ~ found'.filterMap Argument.directive?) :
    (∀ store : FileStore,
      expand store registry tokens before = expand store registry other before ∨
        (∃ fault after, expand store registry tokens before = (.error fault, after)) ∧
          ∃ fault after, expand store registry other before = (.error fault, after)) ∧
    ∀ files, ExpandAlike files registry before tokens other ∧
      ∀ fault after, Expands files registry tokens before (.error fault, after) →
        Expands files registry other before (.error fault, after) ∨
          RefusedItself registry tokens before fault after ∧ fault.stage = .assigning := by
  have hi (files : FileSystem) : Interchangeable files registry before tokens other :=
    .of_classify h h' ho (hd.flatMap_right _)
  refine ⟨fun store => (hi store.toFileSystem).expand_eq_or,
    fun files => ⟨(hi files).expandAlike, ?_⟩⟩
  intro fault after he
  rcases hi files with hsame | ⟨⟨fault', after', hr, hs⟩, _⟩
  · exact .inl ((hsame _).1 he)
  · cases he.unique (hr.expands files)
    exact .inr ⟨hr, hs⟩

/-- Directives change places across a flag with its value, a reference and a file, in a context that
has an entry for one of their plugins. Of two repeated directives the one that comes first is
reported. -/
theorem expandAlike_of_perm_moved :
    Expands (FileStore.ofAnswers [("f", .ok "--ts_out=dist\nb.proto")]).toFileSystem .builtin
        ["--go_out", "x:gen", "-I", "inc", "--py_out=py", "@f", "a.proto", "--ts_opt=y"]
        ⟨["g"], ⟨[("py", ⟨"", some "z", none⟩)], by decide⟩⟩
        (.ok ⟨{ includeDirPaths := ["inc"] }, ["b.proto", "a.proto"]⟩, ⟨["g", "f"],
          ⟨[("go", ⟨"gen", some "x", none⟩), ("py", ⟨"py", some "z", none⟩),
            ("ts", ⟨"dist", some "y", none⟩)], by decide⟩⟩) ∧
      Expands (FileStore.ofAnswers [("f", .ok "--ts_out=dist\nb.proto")]).toFileSystem .builtin
        ["--ts_opt=y", "--py_out", "py", "-Iinc", "@f", "--go_out=x:gen", "a.proto"]
        ⟨["g"], ⟨[("py", ⟨"", some "z", none⟩)], by decide⟩⟩
        (.ok ⟨{ includeDirPaths := ["inc"] }, ["b.proto", "a.proto"]⟩, ⟨["g", "f"],
          ⟨[("go", ⟨"gen", some "x", none⟩), ("py", ⟨"py", some "z", none⟩),
            ("ts", ⟨"dist", some "y", none⟩)], by decide⟩⟩) ∧
      Expands (FileStore.ofAnswers []).toFileSystem .builtin
        ["--go_out=a", "--go_out=b", "--ts_out=c", "--ts_out=d"] default
        (.error (.duplicateOut "go"), default) ∧
      Expands (FileStore.ofAnswers []).toFileSystem .builtin
        ["--ts_out=c", "--ts_out=d", "--go_out=a", "--go_out=b"] default
        (.error (.duplicateOut "ts"), default) := by
  have h : Expands (FileStore.ofAnswers [("f", .ok "--ts_out=dist\nb.proto")]).toFileSystem .builtin
      ["--go_out", "x:gen", "-I", "inc", "--py_out=py", "@f", "a.proto", "--ts_opt=y"]
      ⟨["g"], ⟨[("py", ⟨"", some "z", none⟩)], by decide⟩⟩
      (.ok ⟨{ includeDirPaths := ["inc"] }, ["b.proto", "a.proto"]⟩, ⟨["g", "f"],
        ⟨[("go", ⟨"gen", some "x", none⟩), ("py", ⟨"py", some "z", none⟩),
          ("ts", ⟨"dist", some "y", none⟩)], by decide⟩⟩) :=
    expands_iff.2 (by decide +kernel)
  have hread : Argument.classify .builtin
      ["--go_out", "x:gen", "-I", "inc", "--py_out=py", "@f", "a.proto", "--ts_opt=y"] =
        .ok [.directive ⟨"go", .out, "x:gen"⟩, .flag .includeDirPaths "-I" (some "inc"),
          .directive ⟨"py", .out, "py"⟩, .positional "@f", .positional "a.proto",
          .directive ⟨"ts", .opt, "y"⟩] := by decide +kernel
  have hread' : Argument.classify .builtin
      ["--ts_opt=y", "--py_out", "py", "-Iinc", "@f", "--go_out=x:gen", "a.proto"] =
        .ok [.directive ⟨"ts", .opt, "y"⟩, .directive ⟨"py", .out, "py"⟩,
          .flag .includeDirPaths "-I" (some "inc"), .positional "@f",
          .directive ⟨"go", .out, "x:gen"⟩, .positional "a.proto"] := by decide +kernel
  exact ⟨h, (((expandAlike_of_perm hread hread' rfl (by decide)).2 _).1.ok_iff _ _).1 h,
    expands_iff.2 (by decide +kernel), expands_iff.2 (by decide +kernel)⟩

/-! ## Output directives with options -/

section Split

variable {plugin options location : String} {earlier later : List String}

namespace Argument

theorem token_out (plugin value : String) :
    (directive ⟨plugin, .out, value⟩).token = "--" ++ plugin ++ "_out=" ++ value :=
  String.toList_inj.1 (by simp [token, DirectiveKind.tail])

theorem token_opt (plugin value : String) :
    (directive ⟨plugin, .opt, value⟩).token = "--" ++ plugin ++ "_opt=" ++ value :=
  String.toList_inj.1 (by simp [token, DirectiveKind.tail])

theorem classify_directives {found : List Argument} {ds : List Directive} (later : List String)
    (h : classify registry earlier = .ok found) (he : endsFlags registry earlier = false)
    (hn : ∀ d ∈ ds, d.IsNamed) :
    classify registry (earlier ++ ((ds.map directive).map token ++ later)) =
      (classify registry later).map fun rest => found ++ (ds.map directive ++ rest) := by
  have hlegible : ∀ a ∈ ds.map directive, a.Legible registry :=
    List.forall_mem_map.2 fun d hm => legible_directive (hn d hm)
  rw [classify_append h, he, classifyFrom_false, classify_map_token_append hlegible]
  cases classify registry later <;> rfl

end Argument

/-- Tokens in flag position that give only directives can stand for each other if these assign the
same. -/
theorem Interchangeable.of_directives {first second : List Directive}
    (hv : ∀ spelling, Argument.classify registry earlier ≠ .error (.missingValue spelling))
    (he : Argument.endsFlags registry earlier = false) (hf : ∀ d ∈ first, d.IsNamed)
    (hs : ∀ d ∈ second, d.IsNamed)
    (hd : first.flatMap Directive.assignments ~ second.flatMap Directive.assignments) :
    Interchangeable files registry before
      (earlier ++ ((first.map Argument.directive).map Argument.token ++ later))
      (earlier ++ ((second.map Argument.directive).map Argument.token ++ later)) := by
  cases hc : Argument.classify registry earlier with
  | error fault =>
      -- neither vector is read past the fault
      have hv (spelling : String) : fault ≠ .missingValue spelling :=
        fun hf => hv spelling (hf ▸ hc)
      exact .of_read_error
        (OwnArguments.read_eq_error_of_classify (Argument.classify_append_of_error hc hv))
        (OwnArguments.read_eq_error_of_classify (Argument.classify_append_of_error hc hv))
  | ok found =>
      have hfirst := Argument.classify_directives later hc he hf
      have hsecond := Argument.classify_directives later hc he hs
      cases hl : Argument.classify registry later with
      | error fault =>
          rw [hl] at hfirst hsecond
          exact .of_read_error (OwnArguments.read_eq_error_of_classify hfirst)
            (OwnArguments.read_eq_error_of_classify hsecond)
      | ok rest =>
          rw [hl] at hfirst hsecond
          refine .of_classify hfirst hsecond ?_ ?_
          · simp only [Argument.others_append, Argument.others_map_directive]
          · simp only [List.filterMap_append, Argument.filterMap_directive?_map,
              List.flatMap_append]
            exact (hd.append_right _).append_left _

/-- An output directive with options before a colon expands alike as a directive for the options and
one for the location, in either order. -/
theorem expandAlike_split (hne : plugin ≠ "") (heq : '=' ∉ plugin.toList)
    (hreserved : FlagName.canonical (plugin ++ "_out") ≠ descriptorSetOut) (ho : options ≠ "")
    (hoc : ':' ∉ options.toList) (hlc : ':' ∉ location.toList)
    (hv : ∀ spelling, Argument.classify registry earlier ≠ .error (.missingValue spelling))
    (he : Argument.endsFlags registry earlier = false) :
    ExpandAlike files registry before
        (earlier ++ ("--" ++ plugin ++ "_out=" ++ (options ++ ":" ++ location)) :: later)
        (earlier ++ ("--" ++ plugin ++ "_opt=" ++ options) ::
          ("--" ++ plugin ++ "_out=" ++ location) :: later) ∧
      ExpandAlike files registry before
        (earlier ++ ("--" ++ plugin ++ "_out=" ++ (options ++ ":" ++ location)) :: later)
        (earlier ++ ("--" ++ plugin ++ "_out=" ++ location) ::
          ("--" ++ plugin ++ "_opt=" ++ options) :: later) := by
  have hout (value : String) : Directive.IsNamed ⟨plugin, .out, value⟩ :=
    ⟨FlagName.ofName_eq_directive_iff.2 ⟨rfl, hne, hreserved⟩, by simp [heq, DirectiveKind.tail]⟩
  have hopt : Directive.IsNamed ⟨plugin, .opt, options⟩ := (hout location).opt options
  have hboth : Directive.assignments ⟨plugin, .out, options ++ ":" ++ location⟩ =
      [.ok ⟨plugin, .out, location⟩, .ok ⟨plugin, .opt, options⟩] :=
    outAssignments_append ho hoc hlc
  have hlone : Directive.assignments ⟨plugin, .out, location⟩ = [.ok ⟨plugin, .out, location⟩] :=
    outAssignments_of_notMem hlc
  have halike (second : List Directive) (hs : ∀ d ∈ second, d.IsNamed)
      (hd : [.ok ⟨plugin, .out, location⟩, .ok ⟨plugin, .opt, options⟩] ~
        second.flatMap Directive.assignments) :
      ExpandAlike files registry before
        (earlier ++ (Argument.directive ⟨plugin, .out, options ++ ":" ++ location⟩).token :: later)
        (earlier ++ ((second.map Argument.directive).map Argument.token ++ later)) := by
    have hfirst := List.forall_mem_singleton.2 (hout (options ++ ":" ++ location))
    refine (Interchangeable.of_directives hv he hfirst hs ?_).expandAlike
    rwa [List.flatMap_cons, List.flatMap_nil, List.append_nil, hboth]
  rw [← Argument.token_out, ← Argument.token_out, ← Argument.token_opt]
  constructor
  · refine halike [⟨plugin, .opt, options⟩, ⟨plugin, .out, location⟩] ?_ ?_
    · exact List.forall_mem_cons.2 ⟨hopt, List.forall_mem_singleton.2 (hout _)⟩
    · simp only [List.flatMap_cons, List.flatMap_nil, hlone]
      exact .swap ..
  · refine halike [⟨plugin, .out, location⟩, ⟨plugin, .opt, options⟩] ?_ ?_
    · exact List.forall_mem_cons.2 ⟨hout _, List.forall_mem_singleton.2 hopt⟩
    · simp only [List.flatMap_cons, List.flatMap_nil, hlone]
      exact .refl _

/-- Between a value that looks like the end of flags and an argument file. -/
theorem expandAlike_split_nested :
    Expands (FileStore.ofAnswers [("f", .ok "--ts_out=dist\nb.proto")]).toFileSystem .builtin
        ["-I", "--", "a.proto", "--go_out=x=y,z:gen", "@f"] default
        (.ok ⟨{ includeDirPaths := ["--"] }, ["a.proto", "b.proto"]⟩, ⟨["f"],
          ⟨[("go", ⟨"gen", some "x=y,z", none⟩), ("ts", ⟨"dist", none, none⟩)], by decide⟩⟩) ∧
      Expands (FileStore.ofAnswers [("f", .ok "--ts_out=dist\nb.proto")]).toFileSystem .builtin
        ["-I", "--", "a.proto", "--go_opt=x=y,z", "--go_out=gen", "@f"] default
        (.ok ⟨{ includeDirPaths := ["--"] }, ["a.proto", "b.proto"]⟩, ⟨["f"],
          ⟨[("go", ⟨"gen", some "x=y,z", none⟩), ("ts", ⟨"dist", none, none⟩)], by decide⟩⟩) ∧
      Expands (FileStore.ofAnswers [("f", .ok "--ts_out=dist\nb.proto")]).toFileSystem .builtin
        ["-I", "--", "a.proto", "--go_out=gen", "--go_opt=x=y,z", "@f"] default
        (.ok ⟨{ includeDirPaths := ["--"] }, ["a.proto", "b.proto"]⟩, ⟨["f"],
          ⟨[("go", ⟨"gen", some "x=y,z", none⟩), ("ts", ⟨"dist", none, none⟩)], by decide⟩⟩) := by
  have h : Expands (FileStore.ofAnswers [("f", .ok "--ts_out=dist\nb.proto")]).toFileSystem .builtin
      ["-I", "--", "a.proto", "--go_out=x=y,z:gen", "@f"] default
      (.ok ⟨{ includeDirPaths := ["--"] }, ["a.proto", "b.proto"]⟩, ⟨["f"],
        ⟨[("go", ⟨"gen", some "x=y,z", none⟩), ("ts", ⟨"dist", none, none⟩)], by decide⟩⟩) :=
    expands_iff.2 (by decide +kernel)
  have hread : Argument.classify .builtin ["-I", "--", "a.proto"] =
      .ok [.flag .includeDirPaths "-I" (some "--"), .positional "a.proto"] := by decide +kernel
  have hsplit : ExpandAlike (FileStore.ofAnswers [("f", .ok "--ts_out=dist\nb.proto")]).toFileSystem
      .builtin default
      (["-I", "--", "a.proto"] ++ ("--" ++ "go" ++ "_out=" ++ ("x=y,z" ++ ":" ++ "gen")) :: ["@f"])
      (["-I", "--", "a.proto"] ++ ("--" ++ "go" ++ "_opt=" ++ "x=y,z") ::
        ("--" ++ "go" ++ "_out=" ++ "gen") :: ["@f"]) ∧ _ :=
    expandAlike_split (by decide) (by decide) (by decide) (by decide) (by decide) (by decide)
      (fun spelling he => by cases hread.symm.trans he) (by decide +kernel)
  exact ⟨h, (hsplit.1.ok_iff _ _).1 h, (hsplit.2.ok_iff _ _).1 h⟩

end Split

end ProtocInvocation
