import ProtocInvocation.Proofs.Argument.Place
import ProtocInvocation.Proofs.Flag.Meaning
import ProtocInvocation.Proofs.Settings.Binding

/-!
# Arguments written as tokens

An argument with its value behind an equals sign is one token, and that token reads as the argument
again if its name can be read back (`Argument.Legible`). Tokens that do are read one by one,
whatever comes after them (`classify_map_token_append`). What can be found in a token is spelled in
one of a few ways (`Argument.Spelled`), so the directives of a vector that was read have such names
(`isNamed_of_mem_classify`).
-/

namespace ProtocInvocation

variable {registry : FlagRegistry} {tokens : List String} {found : List Argument}

/-- The flag of a directive is read as one of its plugin and kind, and its name has no equals sign
that would end it early. -/
structure Directive.IsNamed (d : Directive) : Prop where
  ofName_eq : FlagName.ofName (d.plugin ++ d.kind.tail) = .directive d.plugin d.kind
  equals_notMem : '=' ∉ (d.plugin ++ d.kind.tail).toList

/-- A plugin that one directive can name can be given options. -/
theorem Directive.IsNamed.opt {d : Directive} (h : d.IsNamed) (value : String) :
    IsNamed ⟨d.plugin, .opt, value⟩ := by
  obtain ⟨_, hplugin, _⟩ := FlagName.ofName_eq_directive_iff.1 h.ofName_eq
  refine ⟨FlagName.ofName_eq_directive_iff.2 ⟨rfl, hplugin, FlagName.canonical_opt_ne⟩, ?_⟩
  have hequals : '=' ∉ d.plugin.toList := fun hm => h.equals_notMem (by simp [hm])
  simp [hequals, DirectiveKind.tail]

namespace Argument

/-! ## Reading what was written -/

/-- An argument in one token, where its value stands behind an equals sign. -/
def token : Argument → String
  | directive d => "--" ++ (d.plugin ++ d.kind.tail) ++ "=" ++ d.value
  | flag _ spelling none => spelling
  | flag _ spelling (some value) => spelling ++ "=" ++ value
  | positional text => text

/-- The token of an argument reads as the argument. -/
def Legible (registry : FlagRegistry) (a : Argument) : Prop :=
  readToken registry a.token = .ok (.complete [a])

theorem readToken_long {body : String} (h : body ≠ "") :
    readToken registry ("--" ++ body) = readLong registry body := by
  obtain ⟨c, cs, hcs⟩ := List.exists_cons_of_ne_nil (mt String.toList_eq_nil_iff.1 h)
  have hlist : ("--" ++ body).toList = '-' :: '-' :: c :: cs := by simp [hcs]
  rw [readToken, hlist]
  simp only
  rw [← hcs, String.ofList_toList]

theorem readToken_valued {name value : String} (h : '=' ∉ name.toList) :
    readToken registry ("--" ++ name ++ "=" ++ value) = readNamed registry name (some value) := by
  have hcut : Text.cut '=' (name ++ "=" ++ value) = (name, some value) := Text.cut_append h
  have hne : name ++ "=" ++ value ≠ "" := fun he => by simpa using congrArg String.toList he
  have hassoc : "--" ++ name ++ "=" ++ value = "--" ++ (name ++ "=" ++ value) := by
    simp only [String.append_assoc]
  rw [hassoc, readToken_long hne, readLong, hcut]

theorem readToken_bare {name : String} (h : '=' ∉ name.toList) (hne : name ≠ "") :
    readToken registry ("--" ++ name) = readNamed registry name none := by
  rw [readToken_long hne, readLong, Text.cut_of_notMem h]

theorem legible_directive {d : Directive} (h : d.IsNamed) : Legible registry (directive d) := by
  rw [Legible, token, readToken_valued h.equals_notMem, readNamed, h.ofName_eq]
  rfl

/-- A flag is legible by a name in the registry, with a value if it takes one. -/
theorem legible_flag {name canonical : String} {known : FlagDefinition} {value : Option String}
    (hn : FlagName.ofName name = .flag canonical) (hk : registry.long? canonical = some known)
    (he : '=' ∉ name.toList) (hv : known.arity = .noValue ∨ value.isSome) (hne : name ≠ "") :
    Legible registry (flag known.field ("--" ++ name) value) := by
  have hread : readNamed registry name value =
      .ok (.complete [flag known.field ("--" ++ name) value]) := by
    simp only [readNamed, hn, hk]
    cases ha : known.arity with
    | noValue => rfl
    | requiresValue =>
        rcases hv with hv | hv
        · rw [ha] at hv
          cases hv
        · obtain ⟨text, rfl⟩ := Option.isSome_iff_exists.1 hv
          rfl
  cases value with
  | none => rw [Legible, token, readToken_bare he hne, hread]
  | some text => rw [Legible, token, readToken_valued he, hread]

/-- Legible tokens are read one by one. -/
theorem classify_map_token_append {arguments : List Argument}
    (h : ∀ a ∈ arguments, a.Legible registry) :
    classify registry (arguments.map token ++ tokens) =
      (classify registry tokens).map (arguments ++ ·) := by
  induction arguments with
  | nil =>
      rw [List.map_nil, List.nil_append]
      cases classify registry tokens <;> rfl
  | cons a arguments ih =>
      have ha : readToken registry a.token = .ok (.complete [a]) := h a List.mem_cons_self
      rw [List.map_cons, List.cons_append, classify, ha]
      simp only
      rw [ih fun b hb => h b (List.mem_cons_of_mem _ hb)]
      cases classify registry tokens <;> rfl

theorem classify_endOfFlags :
    classify registry ("--" :: tokens) = .ok (tokens.map positional) := by
  rw [classify, readToken]
  simp

end Argument

/-! ## What was read -/

/-- Every argument of a reading is such, whatever value the last may get. -/
def TokenReading.Gives (such : Argument → Prop) : TokenReading → Prop
  | endOfFlags => True
  | complete found => ∀ a ∈ found, such a
  | awaiting found last => (∀ a ∈ found, such a) ∧ ∀ value, such (last.complete value)

theorem TokenReading.Gives.imp {such other : Argument → Prop} {reading : TokenReading}
    (h : reading.Gives such) (hi : ∀ a, such a → other a) : reading.Gives other := by
  cases reading with
  | endOfFlags => trivial
  | complete found => exact fun a ha => hi a (h a ha)
  | awaiting found last => exact ⟨fun a ha => hi a (h.1 a ha), fun value => hi _ (h.2 value)⟩

namespace Argument

variable {such : Argument → Prop} {reading : TokenReading}

theorem gives_ofPending {last : PendingArgument} {inline : Option String}
    (h : ∀ value, such (last.complete value)) :
    (TokenReading.ofPending last inline).Gives such := by
  cases inline with
  | none => exact ⟨nofun, h⟩
  | some value => simpa [TokenReading.ofPending, TokenReading.Gives] using h value

theorem gives_cons {a : Argument} (ha : such a) (h : reading.Gives such) :
    (reading.cons a).Gives such := by
  cases reading with
  | endOfFlags => trivial
  | complete found => exact List.forall_mem_cons.2 ⟨ha, h⟩
  | awaiting found last => exact ⟨List.forall_mem_cons.2 ⟨ha, h.1⟩, h.2⟩

/-- What holds of positional arguments and of all that a token gives holds of all arguments. -/
theorem forall_mem_of_classify (hp : ∀ text, such (positional text))
    (hr : ∀ {token reading}, readToken registry token = .ok reading → reading.Gives such)
    (h : classify registry tokens = .ok found) : ∀ a ∈ found, such a := by
  fun_induction classify registry tokens generalizing found with
  | case1 =>
      cases h
      exact List.forall_mem_nil _
  | case2 => cases h
  | case3 token tokens ht =>
      cases h
      exact List.forall_mem_map.2 fun text _ => hp text
  | case4 token tokens own ht ih =>
      obtain ⟨later, hl, rfl⟩ := map_eq_ok_iff.1 h
      exact List.forall_mem_append.2 ⟨hr ht, ih hl⟩
  | case5 => cases h
  | case6 token own last ht value tokens ih =>
      obtain ⟨later, hl, rfl⟩ := map_eq_ok_iff.1 h
      exact List.forall_mem_append.2 ⟨(hr ht).1, List.forall_mem_cons.2 ⟨(hr ht).2 value, ih hl⟩⟩

/-- How a token in flag position can spell an argument: a directive or a flag by its long name, a
flag by its letter, and a positional argument as it stands unless it begins like a flag. -/
inductive Spelled (registry : FlagRegistry) : Argument → Prop
  | directive {d : Directive} : d.IsNamed → Spelled registry (directive d)
  | long {name canonical : String} {known : FlagDefinition} {value : Option String} :
      FlagName.ofName name = .flag canonical → registry.long? canonical = some known →
      '=' ∉ name.toList → known.arity = .noValue ∨ value.isSome →
      Spelled registry (flag known.field ("--" ++ name) value)
  | short {letter : Char} {known : FlagDefinition} {value : Option String} :
      registry.short? letter = some known → known.arity = .noValue ∨ value.isSome →
      Spelled registry (flag known.field (String.ofList ['-', letter]) value)
  | positional {text : String} : isDashed text = false → Spelled registry (positional text)

theorem gives_readNamed {name : String} {inline : Option String} (he : '=' ∉ name.toList)
    (h : readNamed registry name inline = .ok reading) : reading.Gives (Spelled registry) := by
  simp only [readNamed] at h
  split at h
  · rename_i plugin kind hn
    cases h
    obtain ⟨rfl, _⟩ := FlagName.ofName_eq_directive_iff.1 hn
    exact gives_ofPending fun value => .directive ⟨hn, he⟩
  rename_i canonical hn
  split at h
  · cases h
  rename_i known hk
  split at h
  · rename_i ha
    cases h
    exact List.forall_mem_singleton.2 (.long hn hk he (.inl ha))
  · cases h
    exact gives_ofPending fun value => .long hn hk he (.inr rfl)

theorem gives_readCluster {letters : List Char} (h : readCluster registry letters = .ok reading) :
    reading.Gives (Spelled registry) := by
  induction letters generalizing reading with
  | nil =>
      cases h
      exact nofun
  | cons letter rest ih =>
      simp only [readCluster] at h
      split at h
      · cases h
      rename_i known hk
      split at h
      · cases h
        exact gives_ofPending fun value => .short hk (.inr rfl)
      rename_i ha
      split at h
      · cases h
        exact List.forall_mem_singleton.2 (.short hk (.inl ha))
      · obtain ⟨later, hl, rfl⟩ := map_eq_ok_iff.1 h
        exact gives_cons (.short hk (.inl ha)) (ih hl)

theorem gives_readToken {token : String} (h : readToken registry token = .ok reading) :
    reading.Gives (Spelled registry) := by
  cases hd : isDashed token with
  | false =>
      rw [readToken_of_not_isDashed hd] at h
      cases h
      exact List.forall_mem_singleton.2 (.positional hd)
  | true =>
      simp only [readToken] at h
      split at h
      · cases h
        trivial
      · exact gives_readNamed (Text.notMem_of_cut rfl) h
      · exact gives_readCluster h
      · simp only [isDashed] at hd
        cases hd

/-- If the argument is a directive, its name is read back. -/
def IsNamed : Argument → Prop
  | directive d => d.IsNamed
  | flag .. | positional _ => True

theorem Spelled.isNamed {a : Argument} (h : a.Spelled registry) : a.IsNamed := by
  cases h with
  | directive hd => exact hd
  | long => trivial
  | short => trivial
  | positional => trivial

/-- The name of every directive that was read is read back. -/
theorem isNamed_of_mem_classify {d : Directive} (h : classify registry tokens = .ok found)
    (hd : directive d ∈ found) : d.IsNamed :=
  forall_mem_of_classify (fun _ => trivial)
    (fun ht => (gives_readToken ht).imp fun _ ha => ha.isNamed) h _ hd

/-! ## Built-in flags -/

/-- A directive by its name, or a built-in flag by its long name, with a value unless that is a
truth value. -/
def IsPlain : Argument → Prop
  | directive d => d.IsNamed
  | flag field spelling value =>
    (∃ known ∈ FlagRegistry.builtin, known.field = field ∧ "--" ++ known.long = spelling) ∧
      (value.isSome ↔ field.shape ≠ .flag)
  | positional _ => False

theorem builtin_arity : ∀ known ∈ FlagRegistry.builtin,
    (known.arity = .noValue ↔ known.field.shape = .flag) := by
  decide

namespace IsPlain

variable {a : Argument}

theorem legible (h : a.IsPlain) : a.Legible .builtin := by
  cases a with
  | directive d => exact legible_directive h
  | flag field spelling value =>
      obtain ⟨⟨known, hm, rfl, rfl⟩, hv⟩ := h
      obtain ⟨_, he, hne⟩ := FlagName.builtin_spelling known hm
      refine legible_flag (FlagName.ofName_of_respells hm (.refl _)) (FlagName.builtin_long known hm)
        he ?_ hne
      by_cases hf : known.field.shape = .flag
      · exact .inl ((builtin_arity known hm).2 hf)
      · exact .inr (hv.2 hf)
  | positional text => cases h

theorem exists_bind (h : a.IsPlain) (s : Settings) : ∃ t, a.bind s = .ok t := by
  cases a with
  | directive d => exact ⟨s, rfl⟩
  | flag field spelling value =>
      obtain ⟨held, hr⟩ := Shape.exists_receive h.2 spelling (s.get field)
      exact ⟨s.set field held, map_eq_ok_iff.2 ⟨held, hr, rfl⟩⟩
  | positional text => cases h

theorem positional?_eq_none (h : a.IsPlain) : a.positional? = none := by
  cases a with
  | directive d => rfl
  | flag field spelling value => rfl
  | positional text => cases h

end IsPlain

end Argument

end ProtocInvocation
