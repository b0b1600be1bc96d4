import ProtocInvocation.Proofs.Argument.Forms

/-!
# Letters in one token

The letter of a flag without a value can stand in one token with whatever else could follow a dash.
The token then reads as the letter alone and after it the rest behind a dash of its own
(`Argument.classify_cluster`), so any number of such letters can be taken apart
(`Argument.classify_letters`). What comes after them, with its value or its fault, is the same both
ways.
-/

namespace ProtocInvocation

/-- A letter that stands for a flag without a value: of the flags with this letter the first takes
none. A dash is no such letter, since behind the dash of its token it begins a long name. -/
def FlagRegistry.IsSwitch (registry : FlagRegistry) (letter : Char) : Prop :=
  letter ≠ '-' ∧ ∃ known, registry.short? letter = some known ∧ known.arity = .noValue

namespace Argument

variable {registry : FlagRegistry} {letter : Char} {known : FlagDefinition}
  {token other rest : String} {a : Argument}

/-! ## One token -/

theorem readCluster_cons {letters : List Char} (hk : registry.short? letter = some known)
    (ha : known.arity = .noValue) (he : letters.head? ≠ some '=') :
    readCluster registry (letter :: letters) =
      (readCluster registry letters).map (.cons (flag known.field (letterToken letter) none)) := by
  rw [readCluster, hk]
  simp only [ha, afterEquals?_of_head?_ne he]
  rfl

theorem readToken_letterToken_append (h : letter ≠ '-') :
    readToken registry (letterToken letter ++ rest) =
      readCluster registry (letter :: rest.toList) := by
  rw [letterToken_append, readToken_short h]

/-- Behind a dash stands either a long name or letters. -/
theorem readToken_dash (hne : rest ≠ "") (hd : rest.toList.head? ≠ some '-') :
    readToken registry ("-" ++ rest) = readCluster registry rest.toList := by
  obtain ⟨letter, letters, hl⟩ :=
    List.exists_cons_of_ne_nil (mt String.toList_eq_nil_iff.1 hne)
  have htoken : "-" ++ rest = String.ofList ('-' :: letter :: letters) :=
    String.toList_inj.1 (by simp [hl])
  have hletter : letter ≠ '-' := by
    rintro rfl
    exact hd (by rw [hl]; rfl)
  rw [htoken, readToken_short hletter, hl]

/-! ## Tokens in a vector -/

/-- A token that reads like another one with an argument in front gives that argument and then all
that a vector with the other token gives, also if the next token is a value or is missing. -/
theorem classify_of_readToken_cons
    (h : readToken registry token = (readToken registry other).map (.cons a)) (hne : other ≠ "--")
    (later : List String) :
    classify registry (token :: later) = (classify registry (other :: later)).map (a :: ·) := by
  rw [classify, classify, h]
  cases hr : readToken registry other with
  | error fault => rfl
  | ok reading =>
      cases reading with
      | endOfFlags => exact absurd (eq_of_readToken_eq_endOfFlags hr) hne
      | complete found =>
          simp only [Except.map, TokenReading.cons]
          cases classify registry later <;> rfl
      | awaiting found last =>
          -- both tokens wait for the same value, so both lack it or take it from the next token
          cases later with
          | nil => rfl
          | cons value later =>
              simp only [Except.map, TokenReading.cons]
              cases classify registry later <;> rfl

theorem reads_letterToken (hl : letter ≠ '-') (hk : registry.short? letter = some known)
    (ha : known.arity = .noValue) :
    Reads registry [letterToken letter] (flag known.field (letterToken letter) none) := by
  refine reads_of_complete ?_
  have hread : readToken registry (letterToken letter) = readCluster registry [letter] :=
    readToken_short hl
  rw [hread, readCluster_cons hk ha (by simp)]
  rfl

theorem classify_letterToken_append (hl : letter ≠ '-') (hk : registry.short? letter = some known)
    (ha : known.arity = .noValue) (hne : rest ≠ "") (he : rest.toList.head? ≠ some '=')
    (hd : rest.toList.head? ≠ some '-') (later : List String) :
    classify registry ((letterToken letter ++ rest) :: later) =
      (classify registry (("-" ++ rest) :: later)).map
        (flag known.field (letterToken letter) none :: ·) := by
  refine classify_of_readToken_cons ?_ ?_ later
  · rw [readToken_letterToken_append hl, readToken_dash hne hd, readCluster_cons hk ha he]
  · intro hend
    have hrest : rest = "-" := (String.append_right_inj "-").1 hend
    exact hd (by rw [hrest]; rfl)

/-- A token of letters, the first of them that of a flag without a value, reads as two tokens: the
first letter, and the other letters behind a dash. They may be any letters, known or not, with or
without a value of their own in the token or after it. -/
theorem classify_cluster (h : registry.IsSwitch letter) (hne : rest ≠ "")
    (he : rest.toList.head? ≠ some '=') (hd : rest.toList.head? ≠ some '-')
    (later : List String) :
    classify registry ((letterToken letter ++ rest) :: later) =
      classify registry (letterToken letter :: ("-" ++ rest) :: later) := by
  obtain ⟨hl, known, hk, ha⟩ := h
  calc classify registry ((letterToken letter ++ rest) :: later)
    _ = (classify registry (("-" ++ rest) :: later)).map
          (flag known.field (letterToken letter) none :: ·) :=
        classify_letterToken_append hl hk ha hne he hd later
    _ = classify registry ([letterToken letter] ++ ("-" ++ rest) :: later) :=
        (reads_letterToken hl hk ha _).symm

/-- Flags with letters in front of the built-in ones. Two of them have the letter `q`, and the first
of these, which takes no value, is meant. -/
def lettered : FlagRegistry :=
  [ { long := "quick", short := some 'q', arity := .noValue, unsupported := none,
      field := .includeImports, description := "" },
    { long := "quiet", short := some 'q', arity := .requiresValue, unsupported := none,
      field := .output, description := "" },
    { long := "extended", short := some 'é', arity := .noValue, unsupported := none,
      field := .includeSourceInfo, description := "" } ] ++ FlagRegistry.builtin

/-- With letters of all kinds behind the first: the value of the last one is the next token, or
there is none; or an equals sign gives one a value; or one is not known. -/
theorem classify_cluster_shadowed :
    lettered.IsSwitch 'q' ∧
    classify lettered [letterToken 'q' ++ "éqI", "--", "a.proto"] =
      .ok [.flag .includeImports "-q" none, .flag .includeSourceInfo "-é" none,
        .flag .includeImports "-q" none, .flag .includeDirPaths "-I" (some "--"),
        .positional "a.proto"] ∧
    classify lettered [letterToken 'q' ++ "éqI"] = .error (.missingValue "-I") ∧
    classify lettered [letterToken 'q' ++ "é=qI", "a.proto"] =
      .ok [.flag .includeImports "-q" none, .flag .includeSourceInfo "-é" (some "qI"),
        .positional "a.proto"] ∧
    classify lettered [letterToken 'q' ++ "éxI", "a.proto"] = .error (.unknownFlag "-x") := by
  have hq : lettered.IsSwitch 'q' := ⟨by decide, lettered[0], by decide, rfl⟩
  have hcluster (rest : String) (hne : rest ≠ "") (he : rest.toList.head? ≠ some '=')
      (hd : rest.toList.head? ≠ some '-') (later : List String) :
      classify lettered ((letterToken 'q' ++ rest) :: later) =
        classify lettered (letterToken 'q' :: ("-" ++ rest) :: later) :=
    classify_cluster hq hne he hd later
  refine ⟨hq, ?_, ?_, ?_, ?_⟩
  · rw [hcluster "éqI" (by decide) (by decide) (by decide)]
    decide +kernel
  · rw [hcluster "éqI" (by decide) (by decide) (by decide)]
    decide +kernel
  · rw [hcluster "é=qI" (by decide) (by decide) (by decide)]
    decide +kernel
  · rw [hcluster "éxI" (by decide) (by decide) (by decide)]
    decide +kernel

theorem head?_ofList_append_ne {letters : List Char} {c : Char} (hr : rest.toList.head? ≠ some c)
    (hc : ∀ letter ∈ letters, letter ≠ c) :
    (String.ofList letters ++ rest).toList.head? ≠ some c := by
  cases letters with
  | nil => simpa using hr
  | cons letter _ => simpa using hc letter List.mem_cons_self

/-- Any number of letters of flags without a value can be taken out of a token. -/
theorem classify_letters {letters : List Char}
    (h : ∀ letter ∈ letters, registry.IsSwitch letter ∧ letter ≠ '=') (hne : rest ≠ "")
    (he : rest.toList.head? ≠ some '=') (hd : rest.toList.head? ≠ some '-') (later : List String) :
    classify registry (("-" ++ (String.ofList letters ++ rest)) :: later) =
      classify registry (letters.map letterToken ++ ("-" ++ rest) :: later) := by
  induction letters with
  | nil => rw [String.ofList_nil, String.empty_append, List.map_nil, List.nil_append]
  | cons letter letters ih =>
      obtain ⟨⟨⟨hl, known, hk, ha⟩, -⟩, hletters⟩ := List.forall_mem_cons.1 h
      have htoken : "-" ++ (String.ofList (letter :: letters) ++ rest) =
          letterToken letter ++ (String.ofList letters ++ rest) :=
        String.toList_inj.1 (by simp [letterToken])
      have hbehind : String.ofList letters ++ rest ≠ "" :=
        fun hb => hne (String.append_eq_empty_iff.1 hb).2
      have hequals := head?_ofList_append_ne he fun c hc => (hletters c hc).2
      have hdash := head?_ofList_append_ne hd fun c hc => (hletters c hc).1.1
      rw [htoken, classify_letterToken_append hl hk ha hbehind hequals hdash, ih hletters]
      exact (reads_letterToken hl hk ha _).symm

end Argument

end ProtocInvocation
