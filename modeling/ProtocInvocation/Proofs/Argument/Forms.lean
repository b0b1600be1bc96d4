import ProtocInvocation.Proofs.Argument.Rendering

/-!
# Forms of one argument

An argument with a value can be written in more than one way: the value behind an equals sign or in
the next token, and behind a letter also with nothing between. In flag position all forms read as
the argument, whatever the value looks like and whatever comes next (`Argument.classify_forms`), and
a long name that means nothing is refused there in every form (`Argument.existsUnique_means`).
-/

namespace ProtocInvocation.Argument

open FlagName (Means Respells)

variable {registry : FlagRegistry} {earlier later form : List String} {found : List Argument}
  {a : Argument} {name value token : String} {letter : Char} {known : FlagDefinition}
  {last : PendingArgument}

/-- A letter as a token. -/
def letterToken (letter : Char) : String :=
  String.ofList ['-', letter]

theorem letterToken_append (letter : Char) (rest : String) :
    letterToken letter ++ rest = String.ofList ('-' :: letter :: rest.toList) :=
  String.toList_inj.1 (by simp [letterToken])

/-- The ways to write a long name with a value, in one token or in two. -/
def longForms (name value : String) : List (List String) :=
  [["--" ++ name ++ "=" ++ value], ["--" ++ name, value]]

/-- The ways to write a letter with a value. The value stands right behind the letter unless there
is none to see or an equals sign in front of it would be taken for the one that begins a value. -/
def shortForms (letter : Char) (value : String) : List (List String) :=
  [[letterToken letter ++ "=" ++ value], [letterToken letter, value]] ++
    if value = "" ∨ value.toList.head? = some '=' then [] else [[letterToken letter ++ value]]

/-- Whether tokens in flag position read as one argument, and what follows as if it began there. -/
def Reads (registry : FlagRegistry) (form : List String) (a : Argument) : Prop :=
  ∀ later, classify registry (form ++ later) = (classify registry later).map (a :: ·)

/-! ## Forms in their place -/

theorem reads_of_complete (h : readToken registry token = .ok (.complete [a])) :
    Reads registry [token] a := by
  intro later
  rw [List.singleton_append, classify, h]
  rfl

theorem reads_of_awaiting (h : readToken registry token = .ok (.awaiting [] last)) :
    Reads registry [token, value] (last.complete value) := by
  intro later
  rw [List.cons_append, List.singleton_append, classify, h]
  rfl

/-- Tokens in flag position read the same behind every vector that leaves them there. -/
theorem Reads.inPlace (hf : Reads registry form a) (h : classify registry earlier = .ok found)
    (he : endsFlags registry earlier = false) : classify registry (earlier ++ form ++ later) =
      (classify registry later).map (found ++ a :: ·) := by
  rw [List.append_assoc, classify_append h, he, classifyFrom_false, hf later]
  cases classify registry later <;> rfl

theorem classify_append_of_refused {fault : Fault} (h : classify registry earlier = .ok found)
    (he : endsFlags registry earlier = false) (hr : readToken registry token = .error fault) :
    classify registry (earlier ++ [token] ++ later) = .error fault := by
  rw [List.append_assoc, classify_append h, he, classifyFrom_false, List.singleton_append, classify,
    hr]
  rfl

/-! ## Long names -/

theorem reads_of_mem_longForms (hne : name ≠ "") (he : '=' ∉ name.toList)
    (h : ∀ inline, readNamed registry name inline = .ok (.ofPending last inline)) :
    ∀ form ∈ longForms name value, Reads registry form (last.complete value) := by
  have hinline : readToken registry ("--" ++ name ++ "=" ++ value) =
      .ok (.complete [last.complete value]) := by
    rw [readToken_valued he, h]
    rfl
  have hbare : readToken registry ("--" ++ name) = .ok (.awaiting [] last) := by
    rw [readToken_bare he hne, h]
    rfl
  intro form hm
  rcases List.mem_cons.1 hm with rfl | hm
  · exact reads_of_complete hinline
  · obtain rfl := List.mem_singleton.1 hm
    exact reads_of_awaiting hbare

theorem readNamed_of_respells (hk : known ∈ FlagRegistry.builtin) (h : Respells name known.long)
    (inline : Option String) : readNamed .builtin name inline =
      .ok (match known.arity with
        | .noValue => .complete [flag known.field ("--" ++ name) inline]
        | .requiresValue => .ofPending (.flag known.field ("--" ++ name)) inline) := by
  simp only [readNamed, FlagName.ofName_of_respells hk h, FlagName.builtin_long known hk]
  cases known.arity <;> rfl

theorem readNamed_of_namesDirective {plugin : String} {kind : DirectiveKind}
    (h : FlagName.NamesDirective name plugin kind) (inline : Option String) :
    readNamed registry name inline =
      .ok (.ofPending (.directive plugin kind ("--" ++ name)) inline) := by
  simp only [readNamed, FlagName.ofName_eq_directive_iff_namesDirective.2 h]

theorem readNamed_of_means_unknown (h : Means name .unknown) (inline : Option String) :
    readNamed .builtin name inline = .error (.unknownFlag ("--" ++ name)) := by
  cases h with
  | unknown hk hd =>
      simp only [readNamed, FlagName.ofName_of_forall_not hd, FlagName.long?_canonical_eq_none hk]

/-! ## Letters -/

theorem builtin_short (hk : known ∈ FlagRegistry.builtin) (hl : known.short = some letter) :
    letter ≠ '-' ∧ FlagRegistry.builtin.short? letter = some known := by
  have hdash : ∀ known ∈ FlagRegistry.builtin, known.short ≠ some '-' := by decide
  have hown : ∀ known ∈ FlagRegistry.builtin,
      known.short ≠ none → known.short.bind FlagRegistry.builtin.short? = some known := by decide
  refine ⟨?_, ?_⟩
  · rintro rfl
    exact hdash known hk hl
  · have hb := hown known hk (by simp [hl])
    rwa [hl, Option.bind_some] at hb

theorem afterEquals?_of_head?_ne {rest : List Char} (h : rest.head? ≠ some '=') :
    afterEquals? rest = none := by
  rw [afterEquals?]
  rintro text rfl
  exact h rfl

theorem attached?_of_head?_ne {rest : List Char} (hne : rest ≠ []) (h : rest.head? ≠ some '=') :
    attached? rest = some (String.ofList rest) := by
  rw [attached?, afterEquals?_of_head?_ne h, Option.none_or, if_neg hne]

theorem reads_of_mem_shortForms (hne : letter ≠ '-') (hk : registry.short? letter = some known)
    (ha : known.arity = .requiresValue) : ∀ form ∈ shortForms letter value,
      Reads registry form (flag known.field (letterToken letter) (some value)) := by
  have hread : ∀ rest : List Char, readToken registry (String.ofList ('-' :: letter :: rest)) =
      .ok (.ofPending (.flag known.field (letterToken letter)) (attached? rest)) := by
    intro rest
    rw [readToken_short hne, readCluster, hk]
    simp only [ha]
    rfl
  have hequals : letterToken letter ++ "=" ++ value =
      String.ofList ('-' :: letter :: '=' :: value.toList) := by
    rw [String.append_assoc, letterToken_append]
    simp
  have hafter : attached? ('=' :: value.toList) = some value :=
    congrArg some String.ofList_toList
  intro form hm
  simp only [shortForms, List.mem_append, List.mem_cons, List.not_mem_nil, or_false] at hm
  rcases hm with (rfl | rfl) | hm
  · refine reads_of_complete ?_
    rw [hequals, hread, hafter]
    rfl
  · exact reads_of_awaiting (hread [])
  · split at hm
    · cases hm
    · rename_i hv
      obtain ⟨hv, hhead⟩ := not_or.1 hv
      obtain rfl := List.mem_singleton.1 hm
      refine reads_of_complete ?_
      rw [letterToken_append, hread, attached?_of_head?_ne (mt String.toList_eq_nil_iff.1 hv) hhead,
        String.ofList_toList]
      rfl

/-! ## Forms of built-in flags and directives -/

/-- In flag position all forms of an argument read as that argument: a built-in flag with a value
under each of its spellings, which is kept, and under its letter; a directive; and a built-in flag
without a value, which may still have one behind an equals sign. -/
theorem classify_forms (h : classify .builtin earlier = .ok found)
    (he : endsFlags .builtin earlier = false) (later : List String) (value : String) :
    (∀ known ∈ FlagRegistry.builtin, known.arity = .requiresValue →
      ∀ name, Respells name known.long → ∀ form ∈ longForms name value,
        classify .builtin (earlier ++ form ++ later) = (classify .builtin later).map
          (found ++ flag known.field ("--" ++ name) (some value) :: ·)) ∧
    (∀ name plugin kind, FlagName.NamesDirective name plugin kind → '=' ∉ name.toList →
      ∀ form ∈ longForms name value,
        classify .builtin (earlier ++ form ++ later) = (classify .builtin later).map
          (found ++ directive ⟨plugin, kind, value⟩ :: ·)) ∧
    (∀ known ∈ FlagRegistry.builtin, known.arity = .requiresValue →
      ∀ letter, known.short = some letter → ∀ form ∈ shortForms letter value,
        classify .builtin (earlier ++ form ++ later) = (classify .builtin later).map
          (found ++ flag known.field (letterToken letter) (some value) :: ·)) ∧
    (∀ known ∈ FlagRegistry.builtin, known.arity = .noValue →
      ∀ name, Respells name known.long →
        classify .builtin (earlier ++ ["--" ++ name] ++ later) =
          (classify .builtin later).map (found ++ flag known.field ("--" ++ name) none :: ·) ∧
        classify .builtin (earlier ++ ["--" ++ name ++ "=" ++ value] ++ later) =
          (classify .builtin later).map
            (found ++ flag known.field ("--" ++ name) (some value) :: ·)) := by
  refine ⟨fun known hk ha name hr form hm => ?_, fun name plugin kind hn heq form hm => ?_,
    fun known hk ha letter hl form hm => ?_, fun known hk ha name hr => ?_⟩
  · have hne := FlagName.ne_empty_of_respells hk hr
    have heq := FlagName.equals_notMem_of_respells hk hr
    have hread : ∀ inline, readNamed .builtin name inline =
        .ok (.ofPending (.flag known.field ("--" ++ name)) inline) := fun inline => by
      rw [readNamed_of_respells hk hr, ha]
    exact (reads_of_mem_longForms hne heq hread form hm).inPlace h he
  · have hne : name ≠ "" := by
      rintro rfl
      exact hn.plugin_ne (String.append_eq_empty_iff.1 hn.eq_append.symm).1
    exact (reads_of_mem_longForms hne heq (readNamed_of_namesDirective hn) form hm).inPlace h he
  · obtain ⟨hne, hs⟩ := builtin_short hk hl
    exact (reads_of_mem_shortForms hne hs ha form hm).inPlace h he
  · have hne := FlagName.ne_empty_of_respells hk hr
    have heq := FlagName.equals_notMem_of_respells hk hr
    constructor
    · refine (reads_of_complete ?_).inPlace h he
      rw [readToken_bare heq hne, readNamed_of_respells hk hr, ha]
    · refine (reads_of_complete ?_).inPlace h he
      rw [readToken_valued heq, readNamed_of_respells hk hr, ha]

/-- A value that looks like an end of flags is one in every form, also behind another such value,
and a flag is known by a spelling that mixes hyphens and underscores. -/
theorem classify_forms_dashed :
    (classify .builtin ["-I", "--", "a.proto"] =
        .ok [.flag .includeDirPaths "-I" (some "--"), .positional "a.proto"] ∧
      endsFlags .builtin ["-I", "--", "a.proto"] = false) ∧
    (∀ form ∈ longForms "descriptor-set_out" "--",
      classify .builtin (["-I", "--", "a.proto"] ++ form ++ ["-"]) =
        .ok [.flag .includeDirPaths "-I" (some "--"), .positional "a.proto",
          .flag .output "--descriptor-set_out" (some "--"), .positional "-"]) ∧
    (∀ form ∈ longForms "descriptor-set_opt" "--",
      classify .builtin (["-I", "--", "a.proto"] ++ form ++ ["-"]) =
        .ok [.flag .includeDirPaths "-I" (some "--"), .positional "a.proto",
          .directive ⟨"descriptor-set", .opt, "--"⟩, .positional "-"]) ∧
    (∀ form ∈ [["-o=--"], ["-o", "--"], ["-o--"]],
      classify .builtin (["-I", "--", "a.proto"] ++ form ++ ["-"]) =
        .ok [.flag .includeDirPaths "-I" (some "--"), .positional "a.proto",
          .flag .output "-o" (some "--"), .positional "-"]) ∧
    classify .builtin (["-I", "--", "a.proto"] ++ ["--include-imports"] ++ ["-"]) =
      .ok [.flag .includeDirPaths "-I" (some "--"), .positional "a.proto",
        .flag .includeImports "--include-imports" none, .positional "-"] := by
  have h : classify .builtin ["-I", "--", "a.proto"] =
      .ok [.flag .includeDirPaths "-I" (some "--"), .positional "a.proto"] := by decide +kernel
  have he : endsFlags .builtin ["-I", "--", "a.proto"] = false := by decide +kernel
  have hlater : classify .builtin ["-"] = .ok [.positional "-"] := by decide +kernel
  obtain ⟨hlong, hdirective, hshort, hflag⟩ := classify_forms h he ["-"] "--"
  rw [hlater] at hlong hdirective hshort hflag
  have hout : FlagName.Respells "descriptor-set_out" descriptorSetOut :=
    FlagName.canonical_eq_descriptorSetOut_iff.1 (by decide)
  have himports : FlagName.Respells "include-imports" "include_imports" :=
    (FlagName.canonical_eq_iff (by decide)).1 (by decide)
  have hopt : FlagName.NamesDirective "descriptor-set_opt" "descriptor-set" .opt :=
    ⟨rfl, by decide, mt FlagName.canonical_eq_descriptorSetOut_iff.2 (by decide)⟩
  refine ⟨⟨h, he⟩, ?_, ?_, ?_, ?_⟩
  · exact hlong FlagRegistry.builtin[4] (by decide) rfl _ hout
  · exact hdirective _ _ _ hopt (by decide)
  · exact hshort FlagRegistry.builtin[4] (by decide) rfl 'o' rfl
  · exact (hflag FlagRegistry.builtin[1] (by decide) rfl _ himports).1

/-! ## Meanings of long names -/

/-- A long name has exactly one meaning. Every spelling of a built-in flag is read as its name in
underscores; the name of a directive gives the plugin and the kind, and no flag; and any other name
is not known in flag position, with a value or without. -/
theorem existsUnique_means (name : String) (hne : name ≠ "") (he : '=' ∉ name.toList) :
    (∃! meaning, Means name meaning) ∧
    (∀ known, Means name (.builtin known) →
      FlagName.canonical name = known.long ∧ FlagName.ofName name = .flag known.long) ∧
    (∀ plugin kind, Means name (.directive plugin kind) →
      FlagName.ofName name = .directive plugin kind ∧ plugin ++ kind.tail = name ∧
        ∀ inline, readNamed .builtin name inline =
          .ok (.ofPending (.directive plugin kind ("--" ++ name)) inline)) ∧
    (Means name .unknown → ∀ earlier found later, classify .builtin earlier = .ok found →
      endsFlags .builtin earlier = false →
        ∀ token, token = "--" ++ name ∨ (∃ value, token = "--" ++ name ++ "=" ++ value) →
          classify .builtin (earlier ++ [token] ++ later) =
            .error (.unknownFlag ("--" ++ name))) := by
  refine ⟨?_, fun known hm => ?_, fun plugin kind hm => ?_,
    fun hm earlier found later h hends token ht => ?_⟩
  · exact ⟨FlagName.meaning name, FlagName.means_iff.2 rfl, fun _ hm => hm.meaning_eq.symm⟩
  · cases hm with
    | builtin hk hr =>
        exact ⟨FlagName.canonical_of_respells hk hr, FlagName.ofName_of_respells hk hr⟩
  · cases hm with
    | directive hn =>
        exact ⟨FlagName.ofName_eq_directive_iff_namesDirective.2 hn, hn.eq_append.symm,
          readNamed_of_namesDirective hn⟩
  · refine classify_append_of_refused h hends ?_
    rcases ht with rfl | ⟨value, rfl⟩
    · rw [readToken_bare he hne, readNamed_of_means_unknown hm]
    · rw [readToken_valued he, readNamed_of_means_unknown hm]

/-- Of two tails the last decides, and a tail alone is no name of a directive. The tail has an
underscore: with a hyphen there the name is not known, unless it is that of the flag for the
descriptor set. -/
theorem existsUnique_means_tails :
    FlagName.ofName "a_out_opt" = .directive "a_out" .opt ∧
    FlagName.ofName "descriptor-set-out" = .flag descriptorSetOut ∧
    classify .builtin (["-I", "--"] ++ ["--_out=gen"] ++ ["a.proto"]) =
      .error (.unknownFlag "--_out") ∧
    classify .builtin (["-I", "--"] ++ ["--go-out"] ++ ["gen"]) =
      .error (.unknownFlag "--go-out") := by
  have h : classify .builtin ["-I", "--"] = .ok [.flag .includeDirPaths "-I" (some "--")] := by
    decide +kernel
  have he : endsFlags .builtin ["-I", "--"] = false := by decide +kernel
  refine ⟨?_, ?_, ?_, ?_⟩
  · exact ((existsUnique_means "a_out_opt" (by decide) (by decide)).2.2.1 _ _
      (FlagName.means_iff.2 (by decide))).1
  · exact ((existsUnique_means "descriptor-set-out" (by decide) (by decide)).2.1
      FlagRegistry.builtin[4] (FlagName.means_iff.2 (by decide))).2
  · exact (existsUnique_means "_out" (by decide) (by decide)).2.2.2
      (FlagName.means_iff.2 (by decide)) _ _ _ h he _ (.inr ⟨"gen", by decide⟩)
  · exact (existsUnique_means "go-out" (by decide) (by decide)).2.2.2
      (FlagName.means_iff.2 (by decide)) _ _ _ h he _ (.inl (by decide))

end ProtocInvocation.Argument
