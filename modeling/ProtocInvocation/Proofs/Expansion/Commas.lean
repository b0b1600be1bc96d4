import ProtocInvocation.Proofs.Argument.Forms
import ProtocInvocation.Proofs.Argument.Own
import ProtocInvocation.Proofs.Expansion.Outcome

/-!
# Values between commas

A flag that takes up a list does the same with two values between which there is a comma as with
each of them in turn, whatever they are and whether or not they hold further commas. So one such
token can be written as two, and an expansion goes the same way. Main statement:
`expands_comma`.
-/

namespace ProtocInvocation

variable {registry : FlagRegistry} {tokens other earlier : List String}
  {s : Settings} {field : Field} {name flag first rest : String}

/-! ## Binding -/

theorem Settings.set_set {held next : field.shape.Value} :
    (s.set field held).set field next = s.set field next := by
  refine ext_get fun g => ?_
  by_cases h : field = g
  · subst h
    rw [get_set_self, get_set_self]
  · rw [get_set_of_ne h, get_set_of_ne h, get_set_of_ne h]

theorem Shape.receive_comma {shape : Shape} (h : shape = .list) (held : shape.Value) :
    shape.receive flag (some (first ++ "," ++ rest)) held =
      (shape.receive flag (some first) held).bind (shape.receive flag (some rest)) := by
  subst h
  have hpieces := Text.pieces_append ',' first rest
  exact congrArg Except.ok ((congrArg (held ++ ·) hpieces).trans (List.append_assoc ..).symm)

theorem Settings.bind_comma (h : field.shape = .list) :
    s.bind field flag (some (first ++ "," ++ rest)) =
      (s.bind field flag (some first)).bind fun t => t.bind field flag (some rest) := by
  simp only [Settings.bind]
  rw [Shape.receive_comma h]
  cases hr : field.shape.receive flag (some first) (s.get field) with
  | error fault => rfl
  | ok held =>
      simp only [Except.map, Except.bind, get_set_self]
      cases field.shape.receive flag (some rest) held with
      | error fault => rfl
      | ok next => exact congrArg Except.ok set_set.symm

/-! ## What a vector says -/

namespace OwnArguments

theorem ofArguments_comma {found others : List Argument} (h : field.shape = .list) :
    ofArguments (found ++ .flag field flag (some (first ++ "," ++ rest)) :: others) =
      ofArguments (found ++ .flag field flag (some first) ::
        .flag field flag (some rest) :: others) := by
  have hbind (s : Settings) :
      (Argument.flag field flag (some (first ++ "," ++ rest)) :: others).foldlM Argument.bind s =
        (Argument.flag field flag (some first) :: .flag field flag (some rest) :: others).foldlM
          Argument.bind s := by
    rw [List.foldlM_cons, List.foldlM_cons]
    simp only [List.foldlM_cons, Argument.bind]
    rw [Settings.bind_comma h]
    exact bind_assoc ..
  simp only [ofArguments, List.foldlM_append, List.filterMap_append, List.filterMap_cons, hbind]
  rfl

/-- Two tokens in flag position with a value of a list each say the same as one with both. -/
theorem read_comma {one two both : String} (h : field.shape = .list)
    (hone : Argument.Reads registry [one] (.flag field flag (some first)))
    (htwo : Argument.Reads registry [two] (.flag field flag (some rest)))
    (hboth : Argument.Reads registry [both] (.flag field flag (some (first ++ "," ++ rest))))
    (hv : ∀ spelling, Argument.classify registry earlier ≠ .error (.missingValue spelling))
    (he : Argument.endsFlags registry earlier = false) (later : List String) :
    read registry (earlier ++ [both] ++ later) = read registry (earlier ++ [one, two] ++ later) := by
  cases hc : Argument.classify registry earlier with
  | error fault =>
      have hf (spelling : String) : fault ≠ .missingValue spelling :=
        fun hs => hv spelling (hs ▸ hc)
      rw [List.append_assoc, List.append_assoc,
        read_eq_error_of_classify (Argument.classify_append_of_error hc hf),
        read_eq_error_of_classify (Argument.classify_append_of_error hc hf)]
  | ok found =>
      have htwice : earlier ++ [one, two] ++ later = earlier ++ [one] ++ ([two] ++ later) := by simp
      rw [htwice, read, read, hboth.inPlace hc he, hone.inPlace hc he, htwo later]
      cases Argument.classify registry later with
      | error fault => rfl
      | ok others => exact ofArguments_comma h

end OwnArguments

/-! ## In an expansion -/

/-- All that an expansion knows of its vector is what the vector says itself. -/
theorem expandWithin_congr (h : OwnArguments.read registry tokens = OwnArguments.read registry other)
    (files : FileSystem) (depth : Nat) :
    expandWithin files registry depth tokens = expandWithin files registry depth other := by
  cases depth with
  | zero => rfl
  | succ depth => rw [expandWithin, expandWithin, h]

/-- A long name with a value in its token reads as that value for its field. -/
theorem Argument.reads_valued {known : FlagDefinition} (hk : known ∈ FlagRegistry.builtin)
    (ha : known.arity = .requiresValue) (hn : FlagName.Respells name known.long) (value : String) :
    Reads .builtin ["--" ++ name ++ "=" ++ value]
      (.flag known.field ("--" ++ name) (some value)) := by
  refine reads_of_complete ?_
  rw [readToken_valued (FlagName.equals_notMem_of_respells hk hn), readNamed_of_respells hk hn, ha]
  rfl

/-- The flags whose fields are lists. -/
def listFlags : List String := ["proto_path", "plugin", "descriptor_set_in"]

theorem exists_list_of_mem_listFlags : ∀ long ∈ listFlags, ∃ known ∈ FlagRegistry.builtin,
    known.long = long ∧ known.field.shape = .list ∧ known.arity = .requiresValue := by
  decide

/-- In flag position a list flag can be given the values on both sides of a comma one by one. The
expansion ends with the same value or fault and in the same context, whatever the files and the
context before, and in a file system in which it does not end it does so both ways. -/
theorem expands_comma {long : String} (hl : long ∈ listFlags) (hn : FlagName.Respells name long)
    (hv : ∀ spelling, Argument.classify .builtin earlier ≠ .error (.missingValue spelling))
    (he : Argument.endsFlags .builtin earlier = false) (first rest : String)
    (later : List String) :
    (∀ store before,
      expand store .builtin (earlier ++ ["--" ++ name ++ "=" ++ (first ++ "," ++ rest)] ++ later)
          before =
        expand store .builtin
          (earlier ++ ["--" ++ name ++ "=" ++ first, "--" ++ name ++ "=" ++ rest] ++ later)
          before) ∧
    ∀ files before outcome,
      Expands files .builtin
          (earlier ++ ["--" ++ name ++ "=" ++ (first ++ "," ++ rest)] ++ later) before outcome ↔
        Expands files .builtin
          (earlier ++ ["--" ++ name ++ "=" ++ first, "--" ++ name ++ "=" ++ rest] ++ later)
          before outcome := by
  obtain ⟨known, hk, rfl, hshape, ha⟩ := exists_list_of_mem_listFlags long hl
  have hreads := Argument.reads_valued hk ha hn
  have hread := OwnArguments.read_comma hshape (hreads first) (hreads rest)
    (hreads (first ++ "," ++ rest)) hv he later
  have hexpands (files before outcome) := exists_congr fun depth =>
    iff_of_eq (congrArg (fun step => step.run.run before = some outcome)
      (expandWithin_congr hread files depth))
  exact ⟨fun store before => expands_iff.1 ((hexpands _ _ _).2 (expands_iff.2 rfl)), hexpands⟩

/-- With an empty value between commas and an argument file behind the flag, and with an empty path
that is refused after the one before the comma was recorded. -/
theorem expands_comma_refused :
    expand (FileStore.ofAnswers [("f", .ok "-Ic\n--go_out=gen")]) .builtin
        (["-Ia"] ++ ["--" ++ "proto-path" ++ "=" ++ "x", "--" ++ "proto-path" ++ "=" ++ ",y"] ++
          ["@f", "a.proto"]) default =
      (.ok ⟨{ includeDirPaths := ["a", "x", "", "y", "c"] }, ["a.proto"]⟩,
        ⟨["f"], ⟨[("go", ⟨"gen", none, none⟩)], by decide⟩⟩) ∧
    expand (FileStore.ofAnswers []) .builtin
        ([] ++ ["--" ++ "plugin" ++ "=" ++ "protoc-gen-go=bin/go", "--" ++ "plugin" ++ "=" ++ ""] ++
          ["a.proto"]) default =
      (.error .emptyPluginPath, ⟨[], ⟨[("go", ⟨"", none, some "bin/go"⟩)], by decide⟩⟩) := by
  have hname : FlagName.Respells "proto-path" "proto_path" :=
    (FlagName.canonical_eq_iff (by decide)).1 (by decide)
  have hread : Argument.classify .builtin ["-Ia"] =
      .ok [.flag .includeDirPaths "-I" (some "a")] := by decide +kernel
  refine ⟨?_, ?_⟩
  · refine ((expands_comma (by decide) hname (fun _ h => by cases hread.symm.trans h) (by decide)
      "x" ",y" ["@f", "a.proto"]).1 _ _).symm.trans ?_
    decide +kernel
  · refine ((expands_comma (by decide) (.refl "plugin") (fun _ h => by cases h) rfl
      "protoc-gen-go=bin/go" "" ["a.proto"]).1 _ _).symm.trans ?_
    decide +kernel

end ProtocInvocation
