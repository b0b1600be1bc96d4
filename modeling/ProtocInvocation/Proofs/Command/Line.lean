import ProtocInvocation.Command.Line

/-!
# Where the argument vector begins

A command line is set apart into complete flags of the command and the argument vector that follows
them, and no token is lost, added or moved. The vector begins with the first token that is no flag
of the command. A file that is named after an equals sign is read as text, so such a token begins
the vector, too, if its file is no text. There is one way to set a command line apart like this, and
an argument vector that is set apart again stays whole.

Main statement: `Command.parts_splits`.
-/

namespace ProtocInvocation.Command

/-! ## Flags as tokens -/

/-- The flags that are told by all of their text. -/
def wholeFlags : List String := ["-h", "--help", configFlag]

/-- What stands in front of a file that is named after an equals sign. -/
def inlineLead : String := configFlag ++ "="

/-- A token that begins one of the command's own flags, whatever bytes its file is made of. -/
inductive BeginsFlag : Token → Prop
  | whole (text : String) : text ∈ wholeFlags → BeginsFlag text.toUTF8
  | inline (file : Token) : BeginsFlag (inlineLead.toUTF8 ++ file)

/-- Tokens that are a sequence of the command's own flags, each complete, in front of `later`. The
flag that names its file by the next token lacks a file only if no token is left. -/
inductive OwnFlags (later : List Token) : List Token → Prop
  | nil : OwnFlags later []
  | help (text : String) (own : List Token) : text = "-h" ∨ text = "--help" →
      OwnFlags later own → OwnFlags later (text.toUTF8 :: own)
  | inline (file : String) (own : List Token) :
      OwnFlags later own → OwnFlags later ((inlineLead ++ file).toUTF8 :: own)
  | next (file : Token) (own : List Token) :
      OwnFlags later own → OwnFlags later (configFlag.toUTF8 :: file :: own)
  | last : later = [] → OwnFlags later [configFlag.toUTF8]

/-- Tokens that do not begin with a flag of the command, unless with one whose file is named after an
equals sign and is no text. -/
def Stops (vector : List Token) : Prop :=
  ∀ token ∈ vector.head?, BeginsFlag token →
    ∃ file, token = inlineLead.toUTF8 ++ file ∧ String.fromUTF8? file = none

/-- A command line set apart into the command's own flags and the argument vector. -/
structure Splits (tokens own vector : List Token) : Prop where
  append_eq : own ++ vector = tokens
  flags : OwnFlags vector own
  stops : Stops vector

variable {tokens own vector : List Token} {token file : Token} {text : String}

/-! ## Tokens that are text -/

theorem fromUTF8?_eq_some_iff : String.fromUTF8? token = some text ↔ token = text.toUTF8 := by
  rw [String.fromUTF8?, String.toUTF8_eq_toByteArray]
  constructor
  · intro h
    split at h
    · rw [← Option.some.inj h]
      rfl
    · cases h
  · rintro rfl
    rw [dif_pos text.isValidUTF8]
    rfl

theorem toUTF8_append (first rest : String) :
    (first ++ rest).toUTF8 = first.toUTF8 ++ rest.toUTF8 :=
  String.toByteArray_append

/-! ## One flag -/

theorem isHelp_iff : isHelp text ↔ text = "-h" ∨ text = "--help" := by
  simp [isHelp]

theorem inlineFile?_eq_some_iff {file : String} :
    inlineFile? text = some file ↔ text = inlineLead ++ file :=
  Text.dropLead?_eq_some_iff

/-- A token with a file after an equals sign is too long to be another flag. -/
theorem ne_inline_of_whole (h : text ∈ wholeFlags) : text.toUTF8 ≠ inlineLead.toUTF8 ++ file := by
  intro ht
  have hsize := congrArg ByteArray.size ht
  rw [ByteArray.size_append] at hsize
  have hle : ∀ whole ∈ wholeFlags, whole.toUTF8.size ≤ configFlag.toUTF8.size := by decide
  have hlt : configFlag.toUTF8.size < inlineLead.toUTF8.size := by decide
  have := hle text h
  omega

theorem split_help (h : text = "-h" ∨ text = "--help") :
    split (text.toUTF8 :: tokens) = consFlag (.help text) (split tokens) := by
  have hn : text ≠ configFlag := by
    rcases h with rfl | rfl <;> decide
  rw [split.eq_def]
  simp only [fromUTF8?_eq_some_iff.2 rfl, if_neg hn, isHelp_iff.2 h, if_true]

/-- A text that is no flag by itself names its file or begins the argument vector. -/
theorem split_of_notMem (h : text ∉ wholeFlags) : split (text.toUTF8 :: tokens) =
    (inlineFile? text).elim ([], text.toUTF8 :: tokens)
      fun file => consFlag (.configInline file) (split tokens) := by
  simp only [wholeFlags, List.mem_cons, List.not_mem_nil, or_false, not_or] at h
  have hh : ¬isHelp text := by
    rw [isHelp_iff, not_or]
    exact ⟨h.1, h.2.1⟩
  rw [split.eq_def]
  simp only [fromUTF8?_eq_some_iff.2 rfl, if_neg h.2.2, if_neg hh]
  cases inlineFile? text with
  | none => rfl
  | some file => rfl

theorem split_inline (file : String) : split ((inlineLead ++ file).toUTF8 :: tokens) =
    consFlag (.configInline file) (split tokens) := by
  have hw : inlineLead ++ file ∉ wholeFlags := fun hw => ne_inline_of_whole hw (toUTF8_append _ _)
  rw [split_of_notMem hw, inlineFile?_eq_some_iff.2 rfl, Option.elim_some]

theorem split_next : split (configFlag.toUTF8 :: file :: tokens) =
    consFlag (.configNext (some file)) (split tokens) := by
  rw [split.eq_def]
  simp only [fromUTF8?_eq_some_iff.2 rfl, if_true]

theorem split_last : split [configFlag.toUTF8] = ([.configNext none], []) := by
  rw [split.eq_def]
  simp only [fromUTF8?_eq_some_iff.2 rfl, if_true]

/-! ## The token that stops the flags -/

/-- A token stops the flags if it is no text, or a text that is no flag and names no file. -/
theorem stops_cons_iff : Stops (token :: tokens) ↔
    ∀ text, token = String.toUTF8 text → text ∉ wholeFlags ∧ inlineFile? text = none := by
  constructor
  · rintro h text rfl
    have hw : text ∉ wholeFlags := fun hw => by
      obtain ⟨file, hfile, -⟩ := h _ rfl (.whole text hw)
      exact ne_inline_of_whole hw hfile
    refine ⟨hw, Option.eq_none_iff_forall_ne_some.2 fun file hi => ?_⟩
    rw [inlineFile?_eq_some_iff.1 hi, toUTF8_append] at h
    obtain ⟨file', hfile', hnone⟩ := h _ rfl (.inline file.toUTF8)
    rw [← (ByteArray.append_right_inj _).1 hfile', fromUTF8?_eq_some_iff.2 rfl] at hnone
    cases hnone
  · intro h first hfirst hb
    obtain rfl := Option.some.inj hfirst
    cases hb with
    | whole text hw => exact absurd hw (h text rfl).1
    | inline file =>
        refine ⟨file, rfl, Option.eq_none_iff_forall_ne_some.2 fun name hname => ?_⟩
        rw [fromUTF8?_eq_some_iff.1 hname, ← toUTF8_append] at h
        have hi := (h _ rfl).2
        rw [inlineFile?_eq_some_iff.2 rfl] at hi
        cases hi

/-- A vector that begins with no flag of the command stays whole. -/
theorem split_of_stops (h : Stops vector) : split vector = ([], vector) := by
  cases vector with
  | nil => rfl
  | cons token tokens =>
      cases ht : String.fromUTF8? token with
      | none =>
          rw [split.eq_def]
          simp only [ht]
      | some text =>
          obtain rfl := fromUTF8?_eq_some_iff.1 ht
          obtain ⟨hw, hi⟩ := stops_cons_iff.1 h text rfl
          rw [split_of_notMem hw, hi, Option.elim_none]

/-! ## All flags -/

/-- Complete flags are taken off, whatever is behind them, up to a token that stops them. -/
theorem split_append (h : OwnFlags vector own) (hs : Stops vector) :
    (split (own ++ vector)).1.flatMap OwnFlag.tokens = own ∧ (split (own ++ vector)).2 = vector := by
  induction h with
  | nil =>
      rw [List.nil_append, split_of_stops hs]
      exact ⟨rfl, rfl⟩
  | help text own htext _ ih =>
      rw [List.cons_append, split_help htext]
      exact ⟨congrArg (text.toUTF8 :: ·) ih.1, ih.2⟩
  | inline file own _ ih =>
      rw [List.cons_append, split_inline]
      exact ⟨congrArg ((inlineLead ++ file).toUTF8 :: ·) ih.1, ih.2⟩
  | next file own _ ih =>
      rw [List.cons_append, List.cons_append, split_next]
      exact ⟨congrArg (configFlag.toUTF8 :: file :: ·) ih.1, ih.2⟩
  | last hn =>
      subst hn
      rw [List.append_nil, split_last]
      exact ⟨rfl, rfl⟩

/-- A split takes complete flags off up to a token that stops them. -/
theorem splits_split (tokens : List Token) :
    Splits tokens ((split tokens).1.flatMap OwnFlag.tokens) (split tokens).2 := by
  fun_induction split tokens with
  | case1 => exact ⟨rfl, .nil, fun token h => nomatch h⟩
  | case2 token tokens ht =>
      refine ⟨rfl, .nil, stops_cons_iff.2 fun text htext => ?_⟩
      rw [fromUTF8?_eq_some_iff.2 htext] at ht
      cases ht
  | case3 token ht =>
      obtain rfl := fromUTF8?_eq_some_iff.1 ht
      exact ⟨rfl, .last rfl, fun token h => nomatch h⟩
  | case4 token file tokens ht ih =>
      obtain rfl := fromUTF8?_eq_some_iff.1 ht
      exact ⟨congrArg (configFlag.toUTF8 :: file :: ·) ih.append_eq, .next file _ ih.flags, ih.stops⟩
  | case5 token tokens text ht hc hh ih =>
      obtain rfl := fromUTF8?_eq_some_iff.1 ht
      exact ⟨congrArg (text.toUTF8 :: ·) ih.append_eq, .help text _ (isHelp_iff.1 hh) ih.flags,
        ih.stops⟩
  | case6 token tokens text ht hc hh file hi ih =>
      obtain rfl := fromUTF8?_eq_some_iff.1 ht
      obtain rfl := inlineFile?_eq_some_iff.1 hi
      exact ⟨congrArg (_ :: ·) ih.append_eq, .inline file _ ih.flags, ih.stops⟩
  | case7 token tokens text ht hc hh hi =>
      refine ⟨rfl, .nil, stops_cons_iff.2 fun text' htext' => ?_⟩
      obtain rfl := Option.some.inj ((fromUTF8?_eq_some_iff.2 htext').symm.trans ht)
      rw [isHelp_iff, not_or] at hh
      simp [wholeFlags, hc, hh, hi]

/-- What the command reads of its own command line: the tokens of its flags behind its name, and the
argument vector. -/
def parts (name : Token) (tokens : List Token) : List Token × List Token :=
  (name :: (split tokens).1.flatMap OwnFlag.tokens, (split tokens).2)

/-- The tokens behind the command's name are those of complete flags of the command, then those of
the argument vector, which begins with no flag of the command but one whose file is named after an
equals sign and is no text. Nothing else sets them apart like this, and the argument vector behind
the name stays whole. -/
theorem parts_splits (name : Token) (tokens : List Token) :
    ∃ own vector, parts name tokens = (name :: own, vector) ∧
      Splits tokens own vector ∧
      (∀ own' vector', Splits tokens own' vector' → own' = own ∧ vector' = vector) ∧
      parts name vector = ([name], vector) := by
  have hs := splits_split tokens
  refine ⟨_, _, rfl, hs, fun own' vector' h => ?_, ?_⟩
  · obtain ⟨hown, hvector⟩ := split_append h.flags h.stops
    rw [h.append_eq] at hown hvector
    exact ⟨hown.symm, hvector.symm⟩
  · rw [parts, split_of_stops hs.stops]
    rfl

/-- A file that is no text begins the argument vector when it is named after an equals sign, and is
the flag's own when it is the next token. -/
theorem parts_splits_nontext :
    (∃ own vector, Splits [inlineLead.toUTF8 ++ ⟨#[0xff]⟩, "a.proto".toUTF8] own vector ∧
      ∃ token ∈ vector.head?, BeginsFlag token) ∧
    ∃ own vector, Splits [configFlag.toUTF8, ⟨#[0xff]⟩, "a.proto".toUTF8] own vector ∧
      vector = ["a.proto".toUTF8] := by
  constructor
  · obtain ⟨own, vector, hp, hs, -⟩ := parts_splits "protoc-compat".toUTF8
      [inlineLead.toUTF8 ++ ⟨#[0xff]⟩, "a.proto".toUTF8]
    have hv : vector = [inlineLead.toUTF8 ++ ⟨#[0xff]⟩, "a.proto".toUTF8] :=
      (congrArg Prod.snd hp).symm.trans (by decide +kernel)
    exact ⟨own, vector, hs, _, by rw [hv]; rfl, .inline ⟨#[0xff]⟩⟩
  · obtain ⟨own, vector, hp, hs, -⟩ := parts_splits "protoc-compat".toUTF8
      [configFlag.toUTF8, ⟨#[0xff]⟩, "a.proto".toUTF8]
    exact ⟨own, vector, hs, (congrArg Prod.snd hp).symm.trans (by decide +kernel)⟩

end ProtocInvocation.Command
