import ProtocInvocation.Proofs.Argument.Forms

/-!
# Vectors that lack a value

A vector lacks a value only at its end: its last token is in flag position, names a flag or directive
that takes a value, and has none in itself (`Argument.LacksValue`). When flags are bound, those that
take a value have one, so all that can be wrong then is a value that should be a truth value. Main
statements: `Argument.endsLacking_of_classify`, `Argument.isMisread_of_bind`.
-/

namespace ProtocInvocation

/-- A slot that is given a value, or holds a truth value, refuses nothing but a value that is no
truth value. -/
theorem Shape.exists_of_receive_eq_error {shape : Shape} {flag : String} {value : Option String}
    {held : shape.Value} {fault : Fault} (hv : shape = .flag ∨ value.isSome)
    (h : shape.receive flag value held = .error fault) :
    ∃ text, value = some text ∧ readBool? text = none ∧ fault = .invalidBool flag text := by
  cases value with
  | none =>
      obtain rfl := hv.resolve_right nofun
      cases h
  | some text =>
      cases shape with
      | list => cases h
      | flag =>
          simp only [Shape.receive] at h
          split at h
          · cases h
          · rename_i hb
            cases h
            exact ⟨text, rfl, hb, rfl⟩
      | text => cases h

namespace Argument

open FlagName (Respells NamesDirective)

variable {registry : FlagRegistry} {tokens : List String} {found : List Argument}
  {token spelling name : String} {last : PendingArgument}

/-- A token that names a built-in flag or a directive that takes a value, and has none in itself. -/
inductive LacksValue : String → Prop
  | long {known : FlagDefinition} {name : String} : known ∈ FlagRegistry.builtin →
      known.arity = .requiresValue → Respells name known.long → LacksValue ("--" ++ name)
  | directive {name plugin : String} {kind : DirectiveKind} : NamesDirective name plugin kind →
      '=' ∉ name.toList → LacksValue ("--" ++ name)
  | short {known : FlagDefinition} {letter : Char} : known ∈ FlagRegistry.builtin →
      known.arity = .requiresValue → known.short = some letter → LacksValue (letterToken letter)

/-! ## Tokens that wait for the next -/

/-- A long name waits for a value if it takes one and none stands behind it. -/
theorem lacksValue_of_readNamed {inline : Option String} (he : '=' ∉ name.toList)
    (h : readNamed .builtin name inline = .ok (.awaiting found last)) :
    inline = none ∧ last.spelling = "--" ++ name ∧ LacksValue ("--" ++ name) := by
  obtain ⟨meaning, hm⟩ := FlagName.exists_means name
  cases hm with
  | @builtin known hk hr =>
      rw [readNamed_of_respells hk hr] at h
      cases ha : known.arity with
      | noValue =>
          rw [ha] at h
          cases h
      | requiresValue =>
          rw [ha] at h
          cases inline with
          | some value => cases h
          | none =>
              cases h
              exact ⟨rfl, rfl, .long hk ha hr⟩
  | directive hd =>
      rw [readNamed_of_namesDirective hd] at h
      cases inline with
      | some value => cases h
      | none =>
          cases h
          exact ⟨rfl, rfl, .directive hd he⟩
  | unknown hk hd =>
      rw [readNamed_of_means_unknown (.unknown hk hd)] at h
      cases h

theorem lacksValue_of_readLong {body : String}
    (h : readLong .builtin body = .ok (.awaiting found last)) :
    last.spelling = "--" ++ body ∧ LacksValue ("--" ++ body) := by
  rw [readLong] at h
  have he : '=' ∉ (Text.cut '=' body).1.toList := Text.notMem_of_cut rfl
  obtain ⟨hnone, hs, hlacks⟩ := lacksValue_of_readNamed he h
  have hbody : (Text.cut '=' body).1 = body := Text.eq_of_cut (Prod.ext rfl hnone)
  rw [hbody] at hs hlacks
  exact ⟨hs, hlacks⟩

theorem exists_of_short? {letter : Char} {known : FlagDefinition}
    (h : FlagRegistry.builtin.short? letter = some known) :
    known ∈ FlagRegistry.builtin ∧ known.short = some letter ∧ known.arity = .requiresValue := by
  have harity : ∀ known ∈ FlagRegistry.builtin, known.short ≠ none →
      known.arity = .requiresValue := by decide
  have hm := List.mem_of_find?_eq_some h
  have hs : known.short = some letter := by simpa [FlagDefinition.matchesShort] using List.find?_some h
  exact ⟨hm, hs, harity known hm (by simp [hs])⟩

/-- No built-in letter goes without a value, so only a letter alone waits for one. -/
theorem lacksValue_of_readCluster {letter : Char} {rest : List Char}
    (h : readCluster .builtin (letter :: rest) = .ok (.awaiting found last)) :
    rest = [] ∧ last.spelling = letterToken letter ∧ LacksValue (letterToken letter) := by
  rw [readCluster] at h
  cases hk : FlagRegistry.builtin.short? letter with
  | none =>
      rw [hk] at h
      cases h
  | some known =>
      obtain ⟨hm, hs, ha⟩ := exists_of_short? hk
      rw [hk] at h
      simp only [ha] at h
      cases hv : attached? rest with
      | some value =>
          rw [hv] at h
          cases h
      | none =>
          rw [hv] at h
          cases h
          have hrest : rest = [] := by
            simp only [attached?, Option.or_eq_none_iff] at hv
            simpa using hv.2
          exact ⟨hrest, rfl, .short hm ha hs⟩

/-- A token whose last argument takes the next token as its value is that argument alone. -/
theorem lacksValue_of_readToken (h : readToken .builtin token = .ok (.awaiting found last)) :
    last.spelling = token ∧ LacksValue token := by
  simp only [readToken] at h
  split at h
  · cases h
  · rename_i body _ hl
    have htoken : "--" ++ String.ofList body = token := String.toList_inj.1 (by simp [hl])
    exact htoken ▸ lacksValue_of_readLong h
  · rename_i letter rest _ _ hl
    obtain ⟨rfl, hs, hlacks⟩ := lacksValue_of_readCluster h
    have htoken : letterToken letter = token := String.toList_inj.1 (by simp [letterToken, hl])
    exact htoken ▸ ⟨hs, hlacks⟩
  · cases h

/-! ## Vectors that end too early -/

/-- A vector lacks a value exactly if its last token is in flag position and waits for one. -/
theorem classify_eq_missingValue_iff :
    classify registry tokens = .error (.missingValue spelling) ↔
      ∃ earlier token found own last, tokens = earlier ++ [token] ∧
        classify registry earlier = .ok found ∧ endsFlags registry earlier = false ∧
        readToken registry token = .ok (.awaiting own last) ∧ last.spelling = spelling := by
  constructor
  · intro h
    fun_induction classify registry tokens with
    | case1 => cases h
    | case2 token tokens fault ht =>
        obtain ⟨other, rfl⟩ := exists_unknownFlag_of_readToken ht
        cases h
    | case3 => cases h
    | case4 token tokens own ht ih =>
        obtain ⟨earlier, last, found, pending, waiting, rfl, hc, he, hr, hs⟩ :=
          ih (map_eq_error_iff.1 h)
        refine ⟨token :: earlier, last, own ++ found, pending, waiting, rfl, ?_, ?_, hr, hs⟩
        · rw [classify, ht]
          exact map_eq_ok_iff.2 ⟨found, hc, rfl⟩
        · rw [endsFlags_cons, if_neg (ne_endOfFlags_of_complete ht), takesNext_of_complete ht]
          exact he
    | case5 token own last ht =>
        cases h
        exact ⟨[], token, [], own, last, rfl, rfl, rfl, ht, rfl⟩
    | case6 token own given ht value tokens ih =>
        obtain ⟨earlier, last, found, pending, waiting, rfl, hc, he, hr, hs⟩ :=
          ih (map_eq_error_iff.1 h)
        refine ⟨token :: value :: earlier, last, own ++ given.complete value :: found, pending,
          waiting, rfl, ?_, ?_, hr, hs⟩
        · rw [classify, ht]
          exact map_eq_ok_iff.2 ⟨found, hc, rfl⟩
        · rw [endsFlags_cons, if_neg (ne_endOfFlags_of_awaiting ht),
            if_pos (takesNext_of_awaiting ht)]
          exact he
  · rintro ⟨earlier, token, found, own, last, rfl, hc, he, hr, rfl⟩
    rw [classify_append hc, he, classifyFrom_false, classify, hr]
    rfl

/-- A vector of tokens that ends with the flag whose value it lacks. -/
structure EndsLacking (tokens : List String) (spelling : String) : Prop where
  lacksValue : LacksValue spelling
  exists_earlier : ∃ earlier found, tokens = earlier ++ [spelling] ∧
    classify .builtin earlier = .ok found ∧ endsFlags .builtin earlier = false

theorem endsLacking_of_classify
    (h : classify .builtin tokens = .error (.missingValue spelling)) :
    EndsLacking tokens spelling := by
  obtain ⟨earlier, token, found, own, last, rfl, hc, he, hr, rfl⟩ :=
    classify_eq_missingValue_iff.1 h
  obtain ⟨hs, hlacks⟩ := lacksValue_of_readToken hr
  rw [hs]
  exact ⟨hlacks, earlier, found, rfl, hc, he⟩

/-! ## Values that are bound -/

/-- Whether an argument is a flag that is bound to a value that should be a truth value. -/
def IsMisread (a : Argument) (fault : Fault) : Prop :=
  ∃ field spelling value, a = .flag field spelling (some value) ∧ readBool? value = none ∧
    fault = .invalidBool spelling value

/-- What was found in a vector is bound, or it is a flag whose value is no truth value. -/
theorem Spelled.isMisread {a : Argument} {s : Settings} {fault : Fault} (ha : a.Spelled .builtin)
    (h : a.bind s = .error fault) : a.IsMisread fault := by
  -- the arity says whether there is a value, and the shape of the field agrees with it
  have hflag {known : FlagDefinition} {spelling : String} {value : Option String}
      (hk : known ∈ FlagRegistry.builtin) (hv : known.arity = .noValue ∨ value.isSome)
      (h : (flag known.field spelling value).bind s = .error fault) :
      (flag known.field spelling value).IsMisread fault := by
    obtain ⟨text, rfl, hb, rfl⟩ := Shape.exists_of_receive_eq_error
      (hv.imp_left (builtin_arity known hk).1) (map_eq_error_iff.1 h)
    exact ⟨_, _, text, rfl, hb, rfl⟩
  cases ha with
  | directive hd => cases h
  | positional hp => cases h
  | long hn hk he hv => exact hflag (List.mem_of_find?_eq_some hk) hv h
  | short hk hv => exact hflag (List.mem_of_find?_eq_some hk) hv h

theorem isMisread_of_bind {a : Argument} {s : Settings} {fault : Fault}
    (hc : classify .builtin tokens = .ok found) (hm : a ∈ found)
    (h : a.bind s = .error fault) : a.IsMisread fault := by
  have hall : ∀ a ∈ found, ∀ s fault, Argument.bind s a = .error fault → a.IsMisread fault := by
    refine forall_mem_of_classify (fun text s fault h => ?_) (fun ht => ?_) hc
    · cases h
    · exact (gives_readToken ht).imp fun a ha s fault h => ha.isMisread h
  exact hall a hm s fault h

end Argument

end ProtocInvocation
