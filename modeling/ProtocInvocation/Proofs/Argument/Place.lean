import Mathlib.Data.List.Basic
import ProtocInvocation.Argument.Own
import ProtocInvocation.Fallible

/-!
# Where a token stands

A token is in flag position, or the value of the token before it, or behind the end of flags. Which
of these it is depends on the tokens before it only, so a vector is read from any place on as if its
tokens began there (`classify_append`), and how a vector was read tells how it goes on
(`classify_prolonged`). The positional arguments are the tokens in flag position that do not begin
like a flag, and all tokens behind the end of flags (`positionals_of_classify`).
-/

namespace ProtocInvocation.Argument

variable {registry : FlagRegistry} {token text : String} {tokens earlier later : List String}
  {found : List Argument} {reading : TokenReading}

/-- Whether a token begins like a flag: with a dash, and not as that alone. -/
def isDashed (token : String) : Bool :=
  match token.toList with
  | '-' :: _ :: _ => true
  | _ => false

/-- Whether the last argument in a token takes the next token as its value. -/
def takesNext (registry : FlagRegistry) (token : String) : Bool :=
  match readToken registry token with
  | .ok (.awaiting ..) => true
  | _ => false

/-- Whether there is an end of flags among the tokens in flag position. -/
def endsFlags (registry : FlagRegistry) : List String → Bool
  | [] => false
  | token :: tokens =>
    if token = "--" then true
    else if takesNext registry token then
      match tokens with
      | [] => false
      | _ :: tokens => endsFlags registry tokens
    else endsFlags registry tokens

/-- The tokens in flag position that do not begin like a flag, and all behind the end of flags. -/
def positionalTokens (registry : FlagRegistry) : List String → List String
  | [] => []
  | token :: tokens =>
    if token = "--" then tokens
    else if takesNext registry token then
      match tokens with
      | [] => []
      | _ :: tokens => positionalTokens registry tokens
    else if isDashed token then positionalTokens registry tokens
    else token :: positionalTokens registry tokens

theorem endsFlags_cons : endsFlags registry (token :: tokens) =
    if token = "--" then true
    else if takesNext registry token then endsFlags registry tokens.tail
    else endsFlags registry tokens := by
  cases tokens <;> rfl

theorem positionalTokens_cons : positionalTokens registry (token :: tokens) =
    if token = "--" then tokens
    else if takesNext registry token then positionalTokens registry tokens.tail
    else if isDashed token then positionalTokens registry tokens
    else token :: positionalTokens registry tokens := by
  cases tokens <;> rfl

/-- The arguments of tokens that stand behind the end of flags, or else before it. -/
def classifyFrom (registry : FlagRegistry) (ended : Bool) (tokens : List String) :
    Except Fault (List Argument) :=
  if ended then .ok (tokens.map positional) else classify registry tokens

theorem classifyFrom_false : classifyFrom registry false tokens = classify registry tokens :=
  rfl

/-! ## Single tokens -/

theorem readToken_of_not_isDashed (h : isDashed token = false) :
    readToken registry token = .ok (.complete [positional token]) := by
  simp only [isDashed] at h
  simp only [readToken]
  split
  · rename_i hl
    simp [hl] at h
  · rename_i hl
    simp [hl] at h
  · rename_i hl
    simp [hl] at h
  · rfl

theorem ofPending_ne_endOfFlags {last : PendingArgument} {inline : Option String} :
    TokenReading.ofPending last inline ≠ .endOfFlags := by
  cases inline <;> nofun

theorem readNamed_ne_endOfFlags {name : String} {inline : Option String} :
    readNamed registry name inline ≠ .ok .endOfFlags := by
  intro h
  simp only [readNamed] at h
  split at h
  · exact ofPending_ne_endOfFlags (Except.ok.inj h)
  split at h
  · cases h
  split at h
  · cases h
  · exact ofPending_ne_endOfFlags (Except.ok.inj h)

theorem readCluster_ne_endOfFlags {letters : List Char} :
    readCluster registry letters ≠ .ok .endOfFlags := by
  induction letters with
  | nil => nofun
  | cons letter rest ih =>
      intro h
      simp only [readCluster] at h
      split at h
      · cases h
      split at h
      · exact ofPending_ne_endOfFlags (Except.ok.inj h)
      split at h
      · cases h
      · obtain ⟨reading, hr, hc⟩ := map_eq_ok_iff.1 h
        cases reading with
        | endOfFlags => exact ih hr
        | complete found => cases hc
        | awaiting found last => cases hc

theorem eq_of_readToken_eq_endOfFlags (h : readToken registry token = .ok .endOfFlags) :
    token = "--" := by
  simp only [readToken] at h
  split at h
  · rename_i hl
    exact String.toList_inj.1 hl
  · exact absurd h readNamed_ne_endOfFlags
  · exact absurd h readCluster_ne_endOfFlags
  · cases h

/-- What a token that begins like a flag gives is not positional. -/
theorem filterMap_positional?_of_isDashed (hd : isDashed token) (h : readToken registry token =
    .ok reading) : reading.arguments.filterMap positional? = [] := by
  refine List.filterMap_eq_nil_iff.2 fun a ha => ?_
  cases a with
  | positional text =>
      simp only [readToken] at h
      split at h
      · cases h
        cases ha
      · exact absurd ha (positional_notMem_readNamed h)
      · exact absurd ha (positional_notMem_readCluster h)
      · simp only [isDashed] at hd
        cases hd
  | _ => rfl

theorem takesNext_of_awaiting {last : PendingArgument}
    (h : readToken registry token = .ok (.awaiting found last)) : takesNext registry token := by
  rw [takesNext, h]

theorem takesNext_of_complete (h : readToken registry token = .ok (.complete found)) :
    takesNext registry token = false := by
  rw [takesNext, h]

theorem isDashed_of_awaiting {last : PendingArgument}
    (h : readToken registry token = .ok (.awaiting found last)) : isDashed token := by
  cases hd : isDashed token with
  | true => rfl
  | false =>
      rw [readToken_of_not_isDashed hd] at h
      cases h

theorem readToken_endOfFlags : readToken registry "--" = .ok .endOfFlags := by
  simp [readToken]

theorem ne_endOfFlags_of_complete (h : readToken registry token = .ok (.complete found)) :
    token ≠ "--" := by
  rintro rfl
  cases h.symm.trans readToken_endOfFlags

theorem ne_endOfFlags_of_awaiting {last : PendingArgument}
    (h : readToken registry token = .ok (.awaiting found last)) : token ≠ "--" := by
  rintro rfl
  cases h.symm.trans readToken_endOfFlags

/-! ### Faults -/

theorem exists_unknownFlag_of_readNamed {name : String} {inline : Option String} {fault : Fault}
    (h : readNamed registry name inline = .error fault) :
    ∃ spelling, fault = .unknownFlag spelling := by
  simp only [readNamed] at h
  split at h
  · cases h
  split at h
  · cases h
    exact ⟨_, rfl⟩
  split at h
  · cases h
  · cases h

theorem exists_unknownFlag_of_readCluster {letters : List Char} {fault : Fault}
    (h : readCluster registry letters = .error fault) :
    ∃ spelling, fault = .unknownFlag spelling := by
  induction letters with
  | nil => cases h
  | cons letter rest ih =>
      simp only [readCluster] at h
      split at h
      · cases h
        exact ⟨_, rfl⟩
      split at h
      · cases h
      split at h
      · cases h
      · exact ih (map_eq_error_iff.1 h)

/-- A token by itself lacks nothing: all that can be wrong with it is a flag that is not known. -/
theorem exists_unknownFlag_of_readToken {fault : Fault}
    (h : readToken registry token = .error fault) : ∃ spelling, fault = .unknownFlag spelling := by
  simp only [readToken] at h
  split at h
  · cases h
  · exact exists_unknownFlag_of_readNamed h
  · exact exists_unknownFlag_of_readCluster h
  · cases h

/-! ## Vectors -/

/-- A vector that is read goes on with whatever follows it, as if the tokens after it began
there. -/
theorem classify_append (h : classify registry earlier = .ok found) :
    classify registry (earlier ++ later) =
      (classifyFrom registry (endsFlags registry earlier) later).map (found ++ ·) := by
  fun_induction classify registry earlier generalizing found with
  | case1 =>
      cases h
      simp only [List.nil_append, endsFlags, classifyFrom]
      cases classify registry later <;> rfl
  | case2 => cases h
  | case3 token tokens ht =>
      obtain rfl := eq_of_readToken_eq_endOfFlags ht
      cases h
      rw [List.cons_append, classify, ht, endsFlags_cons, if_pos rfl]
      simp [classifyFrom, Except.map]
  | case4 token tokens own ht ih =>
      obtain ⟨rest, hr, rfl⟩ := map_eq_ok_iff.1 h
      have hne := ne_endOfFlags_of_complete ht
      have hends : endsFlags registry (token :: tokens) = endsFlags registry tokens := by
        rw [endsFlags_cons, if_neg hne, takesNext_of_complete ht]
        rfl
      rw [List.cons_append, classify, ht, hends]
      simp only
      rw [ih hr]
      cases classifyFrom registry (endsFlags registry tokens) later <;> simp [Except.map]
  | case5 => cases h
  | case6 token own last ht value tokens ih =>
      obtain ⟨rest, hr, rfl⟩ := map_eq_ok_iff.1 h
      have hne := ne_endOfFlags_of_awaiting ht
      have hends : endsFlags registry (token :: value :: tokens) = endsFlags registry tokens := by
        rw [endsFlags_cons, if_neg hne, takesNext_of_awaiting ht]
        rfl
      rw [List.cons_append, List.cons_append, classify, ht, hends]
      simp only
      rw [ih hr]
      cases classifyFrom registry (endsFlags registry tokens) later <;> simp [Except.map]

/-- A vector that is not read is not read either with more tokens behind it, unless the first of
these is the value that it lacks. -/
theorem classify_append_of_error {fault : Fault} (h : classify registry earlier = .error fault)
    (hv : ∀ spelling, fault ≠ .missingValue spelling) :
    classify registry (earlier ++ later) = .error fault := by
  fun_induction classify registry earlier with
  | case1 => cases h
  | case2 token tokens found ht =>
      cases h
      rw [List.cons_append, classify, ht]
  | case3 => cases h
  | case4 token tokens own ht ih =>
      rw [List.cons_append, classify, ht]
      exact map_eq_error_iff.2 (ih (map_eq_error_iff.1 h))
  | case5 token own last ht =>
      cases h
      exact absurd rfl (hv last.spelling)
  | case6 token own last ht value tokens ih =>
      rw [List.cons_append, List.cons_append, classify, ht]
      exact map_eq_error_iff.2 (ih (map_eq_error_iff.1 h))

/-- A vector that lacks a value is read with any token behind it: that is the value, and the tokens
after it are read as if they began there. -/
theorem exists_of_classify_eq_missingValue {spelling : String}
    (h : classify registry earlier = .error (.missingValue spelling)) :
    ∃ (found : List Argument) (last : PendingArgument), last.spelling = spelling ∧
      ∀ value later, classify registry (earlier ++ value :: later) =
        (classify registry later).map (found ++ last.complete value :: ·) := by
  fun_induction classify registry earlier with
  | case1 => cases h
  | case2 token tokens fault ht =>
      obtain ⟨other, rfl⟩ := exists_unknownFlag_of_readToken ht
      cases h
  | case3 => cases h
  | case4 token tokens own ht ih =>
      obtain ⟨found, last, hs, hl⟩ := ih (map_eq_error_iff.1 h)
      refine ⟨own ++ found, last, hs, fun value later => ?_⟩
      rw [List.cons_append, classify, ht]
      simp only
      rw [hl]
      cases classify registry later <;> simp [Except.map]
  | case5 token own last ht =>
      cases h
      refine ⟨own, last, rfl, fun value later => ?_⟩
      rw [List.cons_append, List.nil_append, classify, ht]
  | case6 token own pending ht given tokens ih =>
      obtain ⟨found, last, hs, hl⟩ := ih (map_eq_error_iff.1 h)
      refine ⟨own ++ pending.complete given :: found, last, hs, fun value later => ?_⟩
      rw [List.cons_append, List.cons_append, classify, ht]
      simp only
      rw [hl]
      cases classify registry later <;> simp [Except.map]

/-- A token that does not begin like a flag is positional wherever it is no value. -/
theorem classifyFrom_cons {ended : Bool} (h : isDashed token = false) :
    classifyFrom registry ended (token :: tokens) =
      (classifyFrom registry ended tokens).map (positional token :: ·) := by
  cases ended with
  | true => rfl
  | false =>
      rw [classifyFrom_false, classify, readToken_of_not_isDashed h]
      rfl

theorem classifyFrom_append {ended : Bool} {middle : List String}
    (h : ∀ token ∈ middle, isDashed token = false) :
    classifyFrom registry ended (middle ++ tokens) =
      (classifyFrom registry ended tokens).map (middle.map positional ++ ·) := by
  induction middle with
  | nil =>
      rw [List.nil_append]
      cases classifyFrom registry ended tokens <;> rfl
  | cons token middle ih =>
      obtain ⟨hd, hm⟩ := List.forall_mem_cons.1 h
      rw [List.cons_append, classifyFrom_cons hd, ih hm]
      cases classifyFrom registry ended tokens <;> rfl

/-- The positional arguments of a vector. -/
theorem positionals_of_classify (h : classify registry tokens = .ok found) :
    found.filterMap positional? = positionalTokens registry tokens := by
  fun_induction classify registry tokens generalizing found with
  | case1 =>
      cases h
      rfl
  | case2 => cases h
  | case3 token tokens ht =>
      obtain rfl := eq_of_readToken_eq_endOfFlags ht
      cases h
      rw [positionalTokens_cons, if_pos rfl]
      simp [List.filterMap_map, Function.comp_def, positional?]
  | case4 token tokens own ht ih =>
      obtain ⟨rest, hr, rfl⟩ := map_eq_ok_iff.1 h
      rw [List.filterMap_append, ih hr, positionalTokens_cons,
        if_neg (ne_endOfFlags_of_complete ht), takesNext_of_complete ht]
      simp only [Bool.false_eq_true, if_false]
      split
      · rename_i hd
        have hnone : own.filterMap positional? = [] := filterMap_positional?_of_isDashed hd ht
        rw [hnone, List.nil_append]
      · rename_i hd
        rw [readToken_of_not_isDashed (by simpa using hd)] at ht
        cases ht
        rfl
  | case5 => cases h
  | case6 token own last ht value tokens ih =>
      obtain ⟨rest, hr, rfl⟩ := map_eq_ok_iff.1 h
      have hnone : own.filterMap positional? = [] :=
        filterMap_positional?_of_isDashed (isDashed_of_awaiting ht) ht
      have hlast : (last.complete value).positional? = none := by
        cases last <;> rfl
      rw [List.filterMap_append, hnone, List.filterMap_cons, hlast, ih hr, positionalTokens_cons,
        if_neg (ne_endOfFlags_of_awaiting ht), takesNext_of_awaiting ht]
      rfl

/-! ## Vectors that go on -/

/-- A vector that is read stays as read and goes on as the later tokens are read by themselves, or
behind an end of flags with each of them as a positional argument. An unknown flag stays unknown,
and any one token is the value that is missing. -/
theorem classify_prolonged (registry : FlagRegistry) (tokens later : List String) :
    (∀ found, classify registry tokens = .ok found → endsFlags registry tokens = false →
      classify registry (tokens ++ later) = (classify registry later).map (found ++ ·)) ∧
    (∀ found, classify registry tokens = .ok found → endsFlags registry tokens = true →
      classify registry (tokens ++ later) = .ok (found ++ later.map positional)) ∧
    (∀ spelling, classify registry tokens = .error (.unknownFlag spelling) →
      classify registry (tokens ++ later) = .error (.unknownFlag spelling)) ∧
    (∀ spelling, classify registry tokens = .error (.missingValue spelling) →
      ∃ (found : List Argument) (last : PendingArgument), last.spelling = spelling ∧
        ∀ token, classify registry (tokens ++ [token]) = .ok (found ++ [last.complete token])) := by
  refine ⟨fun found h he => ?_, fun found h he => ?_, fun spelling h => ?_, fun spelling h => ?_⟩
  · rw [classify_append h, he, classifyFrom_false]
  · rw [classify_append h, he]
    rfl
  · exact classify_append_of_error h nofun
  · obtain ⟨found, last, hs, hl⟩ := exists_of_classify_eq_missingValue h
    exact ⟨found, last, hs, fun token => hl token []⟩

/-- A value that looks like an end of flags is none, so the later tokens can be refused; behind the
second one they cannot. A flag behind an unknown one is not reached, and the value that is missing
may look like a flag. -/
theorem classify_prolonged_dashed :
    (classify .builtin ["-I", "--", "a.proto"] =
        .ok [.flag .includeDirPaths "-I" (some "--"), .positional "a.proto"] ∧
      endsFlags .builtin ["-I", "--", "a.proto"] = false ∧
      classify .builtin ["-I", "--", "a.proto", "--bogus", "b.proto"] =
        .error (.unknownFlag "--bogus")) ∧
    (classify .builtin ["-I", "--", "--", "a.proto"] =
        .ok [.flag .includeDirPaths "-I" (some "--"), .positional "a.proto"] ∧
      endsFlags .builtin ["-I", "--", "--", "a.proto"] = true ∧
      classify .builtin ["-I", "--", "--", "a.proto", "--bogus", "--"] =
        .ok [.flag .includeDirPaths "-I" (some "--"), .positional "a.proto",
          .positional "--bogus", .positional "--"]) ∧
    (classify .builtin ["a.proto", "-x"] = .error (.unknownFlag "-x") ∧
      classify .builtin ["a.proto", "-x", "-I"] = .error (.unknownFlag "-x")) ∧
    (classify .builtin ["-Iinc", "--go_out"] = .error (.missingValue "--go_out") ∧
      ∃ (found : List Argument) (last : PendingArgument), last.spelling = "--go_out" ∧
        ∀ token, classify .builtin (["-Iinc", "--go_out"] ++ [token]) =
          .ok (found ++ [last.complete token])) := by
  have hvalue : classify .builtin ["-I", "--", "a.proto"] =
      .ok [.flag .includeDirPaths "-I" (some "--"), .positional "a.proto"] := by decide +kernel
  have hended : classify .builtin ["-I", "--", "--", "a.proto"] =
      .ok [.flag .includeDirPaths "-I" (some "--"), .positional "a.proto"] := by decide +kernel
  have hunknown : classify .builtin ["a.proto", "-x"] = .error (.unknownFlag "-x") := by
    decide +kernel
  have hmissing : classify .builtin ["-Iinc", "--go_out"] = .error (.missingValue "--go_out") := by
    decide +kernel
  have hopen : endsFlags .builtin ["-I", "--", "a.proto"] = false := by decide +kernel
  have hclosed : endsFlags .builtin ["-I", "--", "--", "a.proto"] = true := by decide +kernel
  have hbogus : classify .builtin ["--bogus", "b.proto"] = .error (.unknownFlag "--bogus") := by
    decide +kernel
  refine ⟨⟨hvalue, hopen, ?_⟩, ⟨hended, hclosed, ?_⟩, ⟨hunknown, ?_⟩, hmissing, ?_⟩
  · have h := (classify_prolonged .builtin _ ["--bogus", "b.proto"]).1 _ hvalue hopen
    rwa [hbogus] at h
  · exact (classify_prolonged .builtin _ ["--bogus", "--"]).2.1 _ hended hclosed
  · exact (classify_prolonged .builtin _ ["-I"]).2.2.1 _ hunknown
  · exact (classify_prolonged .builtin _ []).2.2.2 _ hmissing

end ProtocInvocation.Argument
