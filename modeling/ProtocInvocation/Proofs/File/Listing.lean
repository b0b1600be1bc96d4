import ProtocInvocation.Proofs.Text.Blank
import ProtocInvocation.Proofs.Text.Cut
import ProtocInvocation.Reference

/-!
# Texts that list arguments

A text lists arguments if it has one argument a line, between blanks, and no more than blanks on its
other lines (`Listing`). The arguments in the text of an argument file are those that it lists, and
every text lists some (`argumentLines_eq_iff_listing`).
-/

namespace ProtocInvocation

variable {argument line text : String} {arguments : List String}

/-- Whether a text can be found on a line: it is not empty, stays on the line, and neither begins
nor ends with a blank. -/
structure IsLineArgument (argument : String) : Prop where
  ne_empty : argument ≠ ""
  newline_notMem : '\n' ∉ argument.toList
  isTrimmed : Text.IsTrimmed argument

/-- Whether a text is blanks that stay on their line. -/
structure IsPadding (text : String) : Prop where
  isBlankText : Text.IsBlankText text
  newline_notMem : '\n' ∉ text.toList

/-- Which arguments a line without its end holds: none, or one between blanks. -/
inductive LineHolds : List String → String → Prop
  | blank {line : String} : IsPadding line → LineHolds [] line
  | argument {before argument after : String} : IsPadding before → IsPadding after →
      LineHolds [argument] (before ++ argument ++ after)

/-- Which arguments a text lists, in order. Its last line need not have an end. -/
inductive Listing : List String → String → Prop
  | last {arguments : List String} {line : String} :
      LineHolds arguments line → Listing arguments line
  | line {own later : List String} {line lineEnd text : String} : LineHolds own line →
      lineEnd ∈ ["\n", "\r\n"] → Listing later text →
      Listing (own ++ later) (line ++ lineEnd ++ text)

instance : Decidable (IsLineArgument argument) :=
  decidable_of_iff (argument ≠ "" ∧ '\n' ∉ argument.toList ∧ Text.IsTrimmed argument)
    ⟨fun ⟨he, hn, ht⟩ => ⟨he, hn, ht⟩, fun ⟨he, hn, ht⟩ => ⟨he, hn, ht⟩⟩

instance : Decidable (IsPadding text) :=
  decidable_of_iff (Text.IsBlankText text ∧ '\n' ∉ text.toList)
    ⟨fun ⟨hb, hn⟩ => ⟨hb, hn⟩, fun ⟨hb, hn⟩ => ⟨hb, hn⟩⟩

theorem IsPadding.append {before after : String} (hb : IsPadding before) (ha : IsPadding after) :
    IsPadding (before ++ after) := by
  refine ⟨Text.isBlankText_append.2 ⟨hb.isBlankText, ha.isBlankText⟩, ?_⟩
  simp [hb.newline_notMem, ha.newline_notMem]

/-! ## Lines -/

/-- The blank in front of a line feed belongs to the line. -/
theorem LineHolds.carriageReturn (h : LineHolds arguments line) :
    LineHolds arguments (line ++ "\r") := by
  have hr : IsPadding "\r" := by decide
  cases h with
  | blank hp => exact .blank (hp.append hr)
  | argument hb ha =>
      rw [String.append_assoc]
      exact .argument hb (ha.append hr)

theorem argumentLines_of_notMem (h : '\n' ∉ line.toList) :
    argumentLines line = if Text.trim line = "" then [] else [Text.trim line] := by
  rw [argumentLines, Text.pieces_of_notMem h, List.map_singleton, List.filter_singleton]
  by_cases ht : Text.trim line = "" <;> simp [ht]

theorem LineHolds.argumentLines_eq (h : LineHolds arguments line)
    (ha : ∀ a ∈ arguments, IsLineArgument a) : argumentLines line = arguments := by
  cases h with
  | blank hp =>
      have htrim : Text.trim line = "" :=
        Text.trim_eq_iff.2 ⟨⟨nofun, nofun⟩, line, "", by simp, hp.isBlankText, nofun⟩
      rw [argumentLines_of_notMem hp.newline_notMem, if_pos htrim]
  | @argument before argument after hbefore hafter =>
      obtain ⟨hne, hn, ht⟩ := ha argument List.mem_cons_self
      have hline : '\n' ∉ (before ++ argument ++ after).toList := by
        simp [hbefore.newline_notMem, hn, hafter.newline_notMem]
      rw [argumentLines_of_notMem hline,
        Text.trim_append hbefore.isBlankText hafter.isBlankText ht, if_neg hne]

/-- Every line holds what is found in it, which can be found on a line. -/
theorem lineHolds_argumentLines (h : '\n' ∉ line.toList) :
    LineHolds (argumentLines line) line ∧ ∀ a ∈ argumentLines line, IsLineArgument a := by
  obtain ⟨before, after, hline, hb, ha⟩ := Text.exists_eq_append_trim line
  rw [argumentLines_of_notMem h]
  rw [hline] at h
  simp only [String.toList_append, List.mem_append, not_or] at h
  obtain ⟨⟨hnb, hnt⟩, hna⟩ := h
  split
  · rename_i ht
    rw [ht, String.append_empty] at hline
    have hp : IsPadding line := hline ▸ IsPadding.append ⟨hb, hnb⟩ ⟨ha, hna⟩
    exact ⟨.blank hp, List.forall_mem_nil _⟩
  · rename_i ht
    refine ⟨?_, List.forall_mem_singleton.2 ⟨ht, hnt, Text.isTrimmed_trim line⟩⟩
    have hholds : LineHolds [Text.trim line] (before ++ Text.trim line ++ after) :=
      .argument ⟨hb, hnb⟩ ⟨ha, hna⟩
    rwa [← hline] at hholds

/-! ## Texts -/

theorem argumentLines_append (text later : String) :
    argumentLines (text ++ "\n" ++ later) = argumentLines text ++ argumentLines later := by
  rw [argumentLines, show "\n" = String.singleton '\n' from rfl, Text.pieces_append,
    List.map_append, List.filter_append]
  rfl

theorem Listing.argumentLines_eq (h : Listing arguments text)
    (ha : ∀ a ∈ arguments, IsLineArgument a) : argumentLines text = arguments := by
  induction h with
  | last hl => exact hl.argumentLines_eq ha
  | @line own later line lineEnd text hl he _ ih =>
      obtain ⟨hown, hlater⟩ := List.forall_mem_append.1 ha
      have hends : lineEnd = "\n" ∨ lineEnd = "\r\n" := by simpa using he
      rcases hends with rfl | rfl
      · rw [argumentLines_append, hl.argumentLines_eq hown, ih hlater]
      · have hsplit : line ++ "\r\n" ++ text = line ++ "\r" ++ "\n" ++ text := by
          simp only [String.append_assoc]
          rfl
        rw [hsplit, argumentLines_append, hl.carriageReturn.argumentLines_eq hown, ih hlater]

theorem listing_argumentLines (text : String) :
    Listing (argumentLines text) text ∧ ∀ a ∈ argumentLines text, IsLineArgument a := by
  induction text using Text.cut_induction '\n' with
  | hw line h => exact (lineHolds_argumentLines h).imp_left .last
  | hc line text h ih =>
      obtain ⟨hl, hown⟩ := lineHolds_argumentLines h
      have happend : argumentLines (line ++ String.singleton '\n' ++ text) =
          argumentLines line ++ argumentLines text := argumentLines_append line text
      rw [happend]
      exact ⟨.line hl List.mem_cons_self ih.1, List.forall_mem_append.2 ⟨hown, ih.2⟩⟩

/-- The arguments in a text are those that it lists, all of which can be found on a line; and a line
feed between two texts leaves the arguments of either as they are. -/
theorem argumentLines_eq_iff_listing :
    (∀ text arguments, argumentLines text = arguments ↔
      Listing arguments text ∧ ∀ a ∈ arguments, IsLineArgument a) ∧
    ∀ text later, argumentLines (text ++ "\n" ++ later) =
      argumentLines text ++ argumentLines later := by
  refine ⟨fun text arguments => ⟨?_, ?_⟩, argumentLines_append⟩
  · rintro rfl
    exact listing_argumentLines text
  · rintro ⟨hl, ha⟩
    exact hl.argumentLines_eq ha

/-- Other spaces than those of ASCII can stand around an argument, and a space or a carriage return
within it. -/
theorem argumentLines_eq_iff_listing_padded :
    Listing ["a b.proto", "--x\ry"] "\u3000a b.proto\u00a0\r\n\t\n--x\ry " ∧
      argumentLines "\u3000a b.proto\u00a0\r\n\t\n--x\ry " = ["a b.proto", "--x\ry"] := by
  have hfirst : LineHolds ["a b.proto"] ("\u3000" ++ "a b.proto" ++ "\u00a0") :=
    .argument (by decide) (by decide)
  have hlast : Listing ["--x\ry"] ("" ++ "--x\ry" ++ " ") :=
    .last (.argument (by decide) (by decide))
  have hblank : Listing ["--x\ry"] ("\t" ++ "\n" ++ ("" ++ "--x\ry" ++ " ")) :=
    .line (.blank (by decide)) (by decide) hlast
  have hlisting : Listing ["a b.proto", "--x\ry"] ("\u3000" ++ "a b.proto" ++ "\u00a0" ++
      "\r\n" ++ ("\t" ++ "\n" ++ ("" ++ "--x\ry" ++ " "))) := .line hfirst (by decide) hblank
  exact ⟨hlisting, (argumentLines_eq_iff_listing.1 _ _).2 ⟨hlisting, by decide⟩⟩

end ProtocInvocation
