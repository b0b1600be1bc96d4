import Mathlib.Control.Monad.Basic
import ProtocInvocation.Proofs.Environment.Resolution
import ProtocInvocation.Proofs.Expansion.Plugins

/-!
# The plugins of a resolved environment

What the plugin table of an environment says, read off the expansion tree: it holds what the
directives and the explicit plugin paths of the tree give, and nothing else
(`plugins_of_resolves`). A directive that gives nothing escapes two checks: another of its plugin
and kind may follow it in a later vector (`repeats_of_resolves`), and it makes an entry that is
blank if nothing else is said of its plugin (`blanks_of_resolves`).
-/

namespace ProtocInvocation

open scoped List

variable {files : FileSystem} {defaults : Defaults} {tokens : List String} {env : Environment}

namespace Environment

/-- What resolves to an environment has an expansion tree that the table collects. -/
theorem exists_collects_of_resolves (h : Resolves files defaults tokens (.ok env)) :
    ∃ tree : ExpansionTree .builtin, tree.IsOf files tokens ∧
      env.plugins.Collects tree.directives tree.pluginPaths ∧ env.plugins.inactionable? = none := by
  obtain ⟨tree, after, ht, ha, ho⟩ := exists_of_resolves h
  obtain ⟨_, hc, _, errorFormat, _, rfl⟩ := ofExpansion_eq_ok_iff.1 ho
  exact ⟨tree, ht, ExpansionTree.collects_of_admits ha, checkActionable_eq_ok_iff.1 hc⟩

/-! ## Repeated directives -/

/-- An accepted vector of tokens repeats a directive only across the vectors of its tree, and only
after one that gave nothing: one with no value, or an output directive with no location. So each
plugin is named once for each kind exactly if no directive that gives nothing has another of its
plugin and kind after it. -/
theorem repeats_of_resolves (h : Resolves files defaults tokens (.ok env)) :
    ∃ tree : ExpansionTree .builtin, tree.IsOf files tokens ∧
      (∀ v ∈ tree.vectors, (v.directives.map Directive.key).Nodup) ∧
      (tree.directives.Pairwise fun d e => d.key = e.key → d.given? d.kind.part = none) ∧
      ((tree.directives.map Directive.key).Nodup ↔
        tree.directives.Pairwise fun d e => d.given? d.kind.part = none → d.key ≠ e.key) := by
  obtain ⟨tree, after, ht, ha, _⟩ := exists_of_resolves h
  have hfault := PluginTable.error_notMem_of_record ha.record_eq
  have hpair := ExpansionTree.pairwise_of_admits ha
  refine ⟨tree, ht, fun v hv => ?_, hpair, ?_⟩
  · exact ArgumentVector.nodup_directives (ExpansionTree.error_notMem_own_assignments hfault v hv)
  · rw [List.Nodup, List.pairwise_map]
    constructor
    · intro hn
      refine hn.imp ?_
      intro d e hne _
      exact hne
    · exact fun hn => hpair.imp₂ (fun _ _ hgiven hne hk => hne (hgiven hk) hk) hn

/-- An output directive with no value does not keep a file from naming the plugin again. -/
theorem repeats_of_resolves_valueless :
    ∃ env, Resolves (FileStore.ofAnswers [("f", .ok "--go_out=gen")]).toFileSystem {}
        ["--go_out=", "@f", "a.proto"] (.ok env) ∧
      ∃ tree : ExpansionTree .builtin,
        tree.IsOf (FileStore.ofAnswers [("f", .ok "--go_out=gen")]).toFileSystem
          ["--go_out=", "@f", "a.proto"] ∧
        ¬(tree.directives.map Directive.key).Nodup ∧
        tree.directives.Pairwise fun d e => d.key = e.key → d.given? d.kind.part = none := by
  have hplugins : (resolve (.ofAnswers [("f", .ok "--go_out=gen")]) {}
      ["--go_out=", "@f", "a.proto"]).map Environment.plugins =
        .ok ⟨[("go", { out := "gen" })], List.pairwise_singleton _ _⟩ := by decide +kernel
  obtain ⟨env, h, _⟩ := exists_resolves_of_plugins hplugins
  obtain ⟨tree, ht, _, hp, _⟩ := repeats_of_resolves h
  -- the tree is that of these two vectors
  have hroot : OwnArguments.read .builtin ["--go_out=", "@f", "a.proto"] =
      .ok ⟨default, .ofList [⟨"go", .out, ""⟩], ["@f", "a.proto"]⟩ := by decide +kernel
  have hfile : OwnArguments.read .builtin ["--go_out=gen"] =
      .ok ⟨default, .ofList [⟨"go", .out, "gen"⟩], []⟩ := by decide +kernel
  obtain ⟨root, hrt, hro⟩ := ArgumentVector.exists_of_read hroot
  obtain ⟨file, hft, hfo⟩ := ArgumentVector.exists_of_read hfile
  have hu : ExpansionTree.IsOf (FileStore.ofAnswers [("f", .ok "--go_out=gen")]).toFileSystem
      ["--go_out=", "@f", "a.proto"]
      ⟨root, .reference "f" file .done (.file "a.proto" .done)⟩ := by
    refine ⟨hrt, ?_⟩
    rw [hro]
    refine .reference rfl ?_ ?_ (.file (by decide) (by decide) .done)
    · rw [hft]
      decide
    · rw [hfo]
      exact .done
  obtain rfl := ht.unique hu
  have hdr : root.directives = [⟨"go", .out, ""⟩] := by
    have hclassify : Argument.classify .builtin root.tokens = .ok [.directive ⟨"go", .out, ""⟩,
        .positional "@f", .positional "a.proto"] := by
      rw [hrt]
      decide +kernel
    exact root.directives_eq_of_classify hclassify
  have hdf : file.directives = [⟨"go", .out, "gen"⟩] := by
    have hclassify : Argument.classify .builtin file.tokens =
        .ok [.directive ⟨"go", .out, "gen"⟩] := by
      rw [hft]
      decide +kernel
    exact file.directives_eq_of_classify hclassify
  refine ⟨env, h, _, ht, ?_, hp⟩
  simp [ExpansionTree.directives, ExpansionTree.vectors, Branches.vectors, hdr, hdf, Directive.key]

/-! ## Blank entries -/

/-- An entry of an accepted table has nowhere to write if and only if every directive of its plugin
is blank, and then the entry is blank itself. So every plugin has somewhere to write exactly if
every directive shares its plugin with one that is not blank. -/
theorem blanks_of_resolves (h : Resolves files defaults tokens (.ok env)) :
    ∃ tree : ExpansionTree .builtin, tree.IsOf files tokens ∧
      (∀ plugin e, env.plugins.get? plugin = some e →
        (e.out = "" ↔ ∀ d ∈ tree.directives, d.plugin = plugin → d.IsBlank) ∧
          (e.out = "" → e = {})) ∧
      ((∀ plugin e, env.plugins.get? plugin = some e → e.out ≠ "") ↔
        ∀ d ∈ tree.directives, ∃ d' ∈ tree.directives, d'.plugin = d.plugin ∧ ¬d'.IsBlank) := by
  obtain ⟨tree, ht, hc, ha⟩ := exists_collects_of_resolves h
  have hblank {plugin : String} {e : PluginEntry} (he : env.plugins.get? plugin = some e)
      (ho : e.out = "") : e = {} := PluginTable.eq_blank_of_inactionable? ha he ho
  have hout {plugin : String} {e : PluginEntry} (he : env.plugins.get? plugin = some e) :
      e.out = "" ↔ ∀ d ∈ tree.directives, d.plugin = plugin → d.IsBlank := by
    constructor
    · exact fun ho => ((hc.eq_blank_iff he).1 (hblank he ho)).1
    · intro hd
      refine (hc.out_eq_empty_iff he).2 fun d hm hp => ?_
      exact Directive.given?_eq_none_iff.2 (hd d hm hp) .out
  refine ⟨tree, ht, fun plugin e he => ⟨hout he, hblank he⟩, ?_⟩
  constructor
  · intro hall d hd
    obtain ⟨e, he⟩ := Option.isSome_iff_exists.1
      ((hc.isSome_get?_iff d.plugin).2 (.inl (List.mem_map_of_mem hd)))
    by_contra hno
    refine hall _ _ he ((hout he).2 fun d' hm hp => ?_)
    by_contra hb
    exact hno ⟨d', hm, hp, hb⟩
  · intro hall plugin e he ho
    obtain ⟨hd, hp⟩ := (hc.eq_blank_iff he).1 (hblank he ho)
    rcases (hc.isSome_get?_iff plugin).1 (Option.isSome_of_eq_some he) with hm | hm
    · obtain ⟨d, hdm, rfl⟩ := List.mem_map.1 hm
      obtain ⟨d', hm', hp', hb'⟩ := hall d hdm
      exact hb' (hd d' hm' hp')
    · exact hp hm

/-- Options with no value make a blank entry. -/
theorem blanks_of_resolves_valueless :
    ∃ env, Resolves (FileStore.ofAnswers []).toFileSystem {} ["--go_opt=", "a.proto"] (.ok env) ∧
      env.plugins.get? "go" = some {} ∧
      ∃ tree : ExpansionTree .builtin,
        tree.IsOf (FileStore.ofAnswers []).toFileSystem ["--go_opt=", "a.proto"] ∧
        ∀ d ∈ tree.directives, d.plugin = "go" → d.IsBlank := by
  have hplugins : (resolve (.ofAnswers []) {} ["--go_opt=", "a.proto"]).map Environment.plugins =
      .ok ⟨[("go", {})], List.pairwise_singleton _ _⟩ := by decide +kernel
  obtain ⟨env, h, hp⟩ := exists_resolves_of_plugins hplugins
  have hgo : env.plugins.get? "go" = some {} := by
    rw [hp]
    rfl
  obtain ⟨tree, ht, hb, _⟩ := blanks_of_resolves h
  exact ⟨env, h, hgo, tree, ht, ((hb "go" {} hgo).1).1 rfl⟩

/-! ## What the table holds -/

/-- The table of an accepted vector of tokens holds what the directives and the explicit plugin
paths of its tree give, and nothing else. So two accepted vectors whose trees hold the same, in
whatever order, have the same table. -/
theorem plugins_of_resolves (h : Resolves files defaults tokens (.ok env)) :
    ∃ tree : ExpansionTree .builtin, tree.IsOf files tokens ∧
      env.plugins.Collects tree.directives tree.pluginPaths ∧
      ∀ {files' : FileSystem} {defaults' : Defaults} {tokens' : List String} {env' : Environment}
        {tree' : ExpansionTree .builtin}, Resolves files' defaults' tokens' (.ok env') →
        tree'.IsOf files' tokens' → tree.directives ~ tree'.directives →
        tree.pluginPaths ~ tree'.pluginPaths → env.plugins = env'.plugins := by
  obtain ⟨tree, ht, hc, _⟩ := exists_collects_of_resolves h
  refine ⟨tree, ht, hc, fun {files' defaults' tokens' env' tree'} h' ht' hd hp => ?_⟩
  obtain ⟨_, hu, hc', _⟩ := exists_collects_of_resolves h'
  obtain rfl := hu.unique ht'
  exact hc.unique hc' hd hp

/-- Directives for one plugin in several vectors and ways are collected in its entry. -/
theorem plugins_of_resolves_split :
    ∃ env, Resolves (FileStore.ofAnswers [("f", .ok "--go_out=gen")]).toFileSystem {}
        ["--go_opt=a", "@f", "--ts_out=b:dist", "--plugin=protoc-gen-go=/bin/go", "a.proto"]
        (.ok env) ∧
      env.plugins.entries = [("go", { out := "gen", opt := some "a", path := some "/bin/go" }),
        ("ts", { out := "dist", opt := some "b" })] ∧
      ∃ tree : ExpansionTree .builtin,
        tree.IsOf (FileStore.ofAnswers [("f", .ok "--go_out=gen")]).toFileSystem
          ["--go_opt=a", "@f", "--ts_out=b:dist", "--plugin=protoc-gen-go=/bin/go", "a.proto"] ∧
        env.plugins.Collects tree.directives tree.pluginPaths := by
  have hplugins : (resolve (.ofAnswers [("f", .ok "--go_out=gen")]) {} ["--go_opt=a", "@f",
      "--ts_out=b:dist", "--plugin=protoc-gen-go=/bin/go", "a.proto"]).map Environment.plugins =
        .ok ⟨[("go", { out := "gen", opt := some "a", path := some "/bin/go" }),
          ("ts", { out := "dist", opt := some "b" })], by decide⟩ := by decide +kernel
  obtain ⟨env, h, hp⟩ := exists_resolves_of_plugins hplugins
  obtain ⟨tree, ht, hc, _⟩ := plugins_of_resolves h
  exact ⟨env, h, congrArg PluginTable.entries hp, tree, ht, hc⟩

end Environment

end ProtocInvocation
