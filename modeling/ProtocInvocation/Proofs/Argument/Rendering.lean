import ProtocInvocation.Proofs.Argument.Spelling

/-!
# Vectors written again

The arguments of a vector can be written again in one token each, with an end of flags where one is
needed (`Argument.render`). Main statement: `classify_render`. What is written so reads as the same
arguments: no name holds an equals sign, so the first one in the token of a flag or directive is
where its value begins.
-/

namespace ProtocInvocation

/-- No flag is spelled like the end of flags: none has an empty name, and none a dash for its
letter. -/
structure FlagRegistry.SparesEnd (registry : FlagRegistry) : Prop where
  long?_empty : registry.long? "" = none
  short?_dash : registry.short? '-' = none

theorem FlagRegistry.sparesEnd_builtin : builtin.SparesEnd :=
  ⟨by decide, by decide⟩

namespace Argument

variable {registry : FlagRegistry} {tokens : List String} {earlier later found : List Argument}

/-! ## One argument -/

theorem readToken_short {letter : Char} {rest : List Char} (h : letter ≠ '-') :
    readToken registry (String.ofList ('-' :: letter :: rest)) =
      readCluster registry (letter :: rest) := by
  rw [readToken, String.toList_ofList]
  split
  · rename_i hl
    cases hl
    exact absurd rfl h
  · rename_i hl
    cases hl
    exact absurd rfl h
  · rename_i hl
    cases hl
    rfl
  · rename_i hl
    exact absurd rfl (hl letter rest)

/-- A flag is legible by a letter in the registry, with a value if it takes one. -/
theorem legible_short {letter : Char} {known : FlagDefinition} {value : Option String}
    (hk : registry.short? letter = some known) (hv : known.arity = .noValue ∨ value.isSome)
    (hne : letter ≠ '-') :
    Legible registry (flag known.field (String.ofList ['-', letter]) value) := by
  cases value with
  | none =>
      have ha : known.arity = .noValue := hv.resolve_right nofun
      rw [Legible, token, readToken_short hne, readCluster, hk]
      simp only [ha]
      rfl
  | some text =>
      have htoken : String.ofList ['-', letter] ++ "=" ++ text =
          String.ofList ('-' :: letter :: '=' :: text.toList) := String.toList_inj.1 (by simp)
      have hafter : afterEquals? ('=' :: text.toList) = some text :=
        congrArg some String.ofList_toList
      rw [Legible, token, htoken, readToken_short hne, readCluster, hk]
      simp only [attached?, hafter, Option.some_or]
      cases known.arity with
      | noValue => rfl
      | requiresValue => rfl

/-- What was found in a token can be written in one of its own. -/
theorem Spelled.legible {a : Argument} (hr : registry.SparesEnd) (h : a.Spelled registry) :
    a.Legible registry := by
  cases h with
  | directive hd => exact legible_directive hd
  | @long name canonical _ _ hn hk he hv =>
      refine legible_flag hn hk he hv ?_
      rintro rfl
      obtain rfl : "" = canonical := FlagName.flag.inj hn
      cases hr.long?_empty.symm.trans hk
  | @short letter _ _ hk hv =>
      refine legible_short hk hv ?_
      rintro rfl
      cases hr.short?_dash.symm.trans hk
  | positional hd => exact readToken_of_not_isDashed hd

/-! ## Vectors -/

/-- Whether an argument is positional although it begins like a flag. -/
def needsEnd (a : Argument) : Bool :=
  a.positional?.any isDashed

theorem Legible.needsEnd_eq {a : Argument} (h : a.Legible registry) : a.needsEnd = false := by
  cases a with
  | directive d => rfl
  | flag field spelling value => rfl
  | positional text =>
      cases hd : isDashed text with
      | false => exact hd
      | true => cases filterMap_positional?_of_isDashed hd h

/-- The arguments in one token each, with an end of flags before the first positional one that
begins like a flag. -/
def render : List Argument → List String
  | [] => []
  | a :: later => if a.needsEnd then "--" :: (a :: later).map token else a.token :: render later

theorem render_append (h : ∀ a ∈ earlier, a.Legible registry) :
    render (earlier ++ later) = earlier.map token ++ render later := by
  induction earlier with
  | nil => rfl
  | cons a earlier ih =>
      obtain ⟨ha, hearlier⟩ := List.forall_mem_cons.1 h
      rw [List.cons_append, render, ha.needsEnd_eq, ih hearlier]
      rfl

theorem classify_render_append (h : ∀ a ∈ earlier, a.Legible registry) :
    classify registry (render (earlier ++ later)) =
      (classify registry (render later)).map (earlier ++ ·) := by
  rw [render_append h, classify_map_token_append h]

theorem classify_render_map_positional (texts : List String) :
    classify registry (render (texts.map positional)) = .ok (texts.map positional) := by
  induction texts with
  | nil => rfl
  | cons text texts ih =>
      cases hd : isDashed text with
      | true =>
          have hneeds : (positional text).needsEnd = true := hd
          rw [List.map_cons, render, if_pos hneeds, classify_endOfFlags]
          simp [token, Function.comp_def]
      | false =>
          have hl : ∀ a ∈ [positional text], a.Legible registry :=
            List.forall_mem_singleton.2 (readToken_of_not_isDashed hd)
          rw [List.map_cons, ← List.singleton_append, classify_render_append hl, ih]
          rfl

theorem classify_render_of_sparesEnd (hr : registry.SparesEnd)
    (h : classify registry tokens = .ok found) : classify registry (render found) = .ok found := by
  fun_induction classify registry tokens generalizing found with
  | case1 =>
      cases h
      rfl
  | case2 => cases h
  | case3 token tokens ht =>
      cases h
      exact classify_render_map_positional tokens
  | case4 token tokens own ht ih =>
      obtain ⟨later, hl, rfl⟩ := map_eq_ok_iff.1 h
      have howned : ∀ a ∈ own, a.Legible registry :=
        fun a ha => (gives_readToken ht a ha).legible hr
      rw [classify_render_append howned, ih hl]
      rfl
  | case5 => cases h
  | case6 token own last ht value tokens ih =>
      obtain ⟨later, hl, rfl⟩ := map_eq_ok_iff.1 h
      obtain ⟨hown, hlast⟩ := gives_readToken ht
      have howned : ∀ a ∈ own ++ [last.complete value], a.Legible registry :=
        List.forall_mem_append.2 ⟨fun a ha => (hown a ha).legible hr,
          List.forall_mem_singleton.2 ((hlast value).legible hr)⟩
      rw [List.append_cons, classify_render_append howned, ih hl]
      rfl

/-- A vector that was read with the built-in flags and is written again reads as the same
arguments. -/
theorem classify_render (h : classify .builtin tokens = .ok found) :
    classify .builtin (render found) = .ok found :=
  classify_render_of_sparesEnd FlagRegistry.sparesEnd_builtin h

/-- Values that look like an end of flags, a flag or a reference, or hold an equals sign or nothing;
then two ends of flags, of which the second is positional. -/
theorem classify_render_dashed :
    classify .builtin ["-I", "--", "--a-b_out", "c=d:-e", "--proto-path=", "-o=x=y", "@f", "-",
        "--plugin", "-Iinc", "-Iinc", "--include_imports=", "--", "a.proto", "--", "-x"] =
      .ok [.flag .includeDirPaths "-I" (some "--"), .directive ⟨"a-b", .out, "c=d:-e"⟩,
        .flag .includeDirPaths "--proto-path" (some ""), .flag .output "-o" (some "x=y"),
        .positional "@f", .positional "-", .flag .pluginPathValues "--plugin" (some "-Iinc"),
        .flag .includeDirPaths "-I" (some "inc"),
        .flag .includeImports "--include_imports" (some ""), .positional "a.proto",
        .positional "--", .positional "-x"] ∧
      classify .builtin ["-I=--", "--a-b_out=c=d:-e", "--proto-path=", "-o=x=y", "@f", "-",
        "--plugin=-Iinc", "-I=inc", "--include_imports=", "a.proto", "--", "--", "-x"] =
      .ok [.flag .includeDirPaths "-I" (some "--"), .directive ⟨"a-b", .out, "c=d:-e"⟩,
        .flag .includeDirPaths "--proto-path" (some ""), .flag .output "-o" (some "x=y"),
        .positional "@f", .positional "-", .flag .pluginPathValues "--plugin" (some "-Iinc"),
        .flag .includeDirPaths "-I" (some "inc"),
        .flag .includeImports "--include_imports" (some ""), .positional "a.proto",
        .positional "--", .positional "-x"] := by
  have h : classify .builtin ["-I", "--", "--a-b_out", "c=d:-e", "--proto-path=", "-o=x=y", "@f",
      "-", "--plugin", "-Iinc", "-Iinc", "--include_imports=", "--", "a.proto", "--", "-x"] =
        .ok [.flag .includeDirPaths "-I" (some "--"), .directive ⟨"a-b", .out, "c=d:-e"⟩,
          .flag .includeDirPaths "--proto-path" (some ""), .flag .output "-o" (some "x=y"),
          .positional "@f", .positional "-", .flag .pluginPathValues "--plugin" (some "-Iinc"),
          .flag .includeDirPaths "-I" (some "inc"),
          .flag .includeImports "--include_imports" (some ""), .positional "a.proto",
          .positional "--", .positional "-x"] := by decide +kernel
  exact ⟨h, classify_render h⟩

end Argument

end ProtocInvocation
