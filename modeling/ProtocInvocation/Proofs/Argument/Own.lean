import Mathlib.Control.Monad.Basic
import ProtocInvocation.Proofs.Argument.Place
import ProtocInvocation.Proofs.Settings.Binding

/-!
# What positional tokens add to a vector

Positional tokens say nothing but themselves. Behind a vector they are more positional arguments of
it (`OwnArguments.read_append`), and inside one others can stand in their place
(`OwnArguments.exists_read_of_append`).
-/

namespace ProtocInvocation

variable {registry : FlagRegistry} {tokens earlier later : List String}

/-! ## Arguments of positional tokens -/

namespace Argument

theorem filterMap_positional?_map (texts : List String) :
    (texts.map positional).filterMap positional? = texts := by
  rw [List.filterMap_map]
  exact List.filterMap_some

theorem filterMap_directive?_positional (texts : List String) :
    (texts.map positional).filterMap directive? = [] := by
  rw [List.filterMap_map]
  exact List.filterMap_none texts

theorem classify_insert {middle : List String} {found : List Argument}
    (h : classify registry earlier = .ok found)
    (hm : ∀ token ∈ middle, isDashed token = false) :
    classify registry (earlier ++ (middle ++ later)) =
      (classifyFrom registry (endsFlags registry earlier) later).map
        fun rest => found ++ (middle.map positional ++ rest) := by
  rw [classify_append h, classifyFrom_append hm]
  cases classifyFrom registry (endsFlags registry earlier) later <;> rfl

end Argument

/-! ## What a vector says -/

namespace OwnArguments

variable {arguments : List Argument}

theorem ofArguments_eq_error {fault : Fault}
    (h : arguments.foldlM Argument.bind default = .error fault) :
    ofArguments arguments = .error fault := by
  rw [ofArguments, h]
  rfl

theorem ofArguments_eq_ok {settings : Settings}
    (h : arguments.foldlM Argument.bind default = .ok settings) :
    ofArguments arguments = .ok ⟨settings, .ofList (arguments.filterMap Argument.directive?),
      arguments.filterMap Argument.positional?⟩ := by
  rw [ofArguments, h]
  rfl

theorem read_eq_of_classify (h : Argument.classify registry tokens = .ok arguments) :
    read registry tokens = ofArguments arguments := by
  rw [read, h]
  rfl

theorem read_eq_error_of_classify {fault : Fault}
    (h : Argument.classify registry tokens = .error fault) :
    read registry tokens = .error fault := by
  rw [read, h]
  rfl

theorem ofArguments_append {found rest : List Argument} (middle : List String) :
    ofArguments (found ++ (middle.map Argument.positional ++ rest)) =
      ((found ++ rest).foldlM Argument.bind default).map fun settings =>
        ⟨settings, .ofList ((found ++ rest).filterMap Argument.directive?),
          found.filterMap Argument.positional? ++
            (middle ++ rest.filterMap Argument.positional?)⟩ := by
  -- binding passes over the positional arguments
  have hbind : (found ++ (middle.map Argument.positional ++ rest)).foldlM Argument.bind default =
      (found ++ rest).foldlM Argument.bind default := by
    rw [List.foldlM_append, List.foldlM_append]
    refine bind_congr fun s => ?_
    rw [List.foldlM_append, foldlM_bind_positional]
    rfl
  rw [ofArguments, hbind]
  simp only [List.filterMap_append, Argument.filterMap_directive?_positional, List.nil_append,
    Argument.filterMap_positional?_map]
  cases (found ++ rest).foldlM Argument.bind default <;> rfl

theorem exists_read_of_append {own : OwnArguments} (middle : List String)
    (hv : ∀ spelling, Argument.classify registry earlier ≠ .error (.missingValue spelling))
    (hm : ∀ token ∈ middle, Argument.isDashed token = false)
    (h : read registry (earlier ++ (middle ++ later)) = .ok own) :
    ∃ ps qs, own.positionals = ps ++ (middle ++ qs) ∧
      ∀ other, (∀ token ∈ other, Argument.isDashed token = false) →
        read registry (earlier ++ (other ++ later)) =
          .ok { own with positionals := ps ++ (other ++ qs) } := by
  obtain ⟨arguments, hc, ho⟩ := bind_eq_ok_iff.1 h
  cases he : Argument.classify registry earlier with
  | error fault =>
      have hf (spelling : String) : fault ≠ .missingValue spelling :=
        fun hs => hv spelling (hs ▸ he)
      cases hc.symm.trans (Argument.classify_append_of_error he hf)
  | ok found =>
      rw [Argument.classify_insert he hm] at hc
      obtain ⟨rest, hl, rfl⟩ := map_eq_ok_iff.1 hc
      rw [ofArguments_append] at ho
      obtain ⟨settings, hs, rfl⟩ := map_eq_ok_iff.1 ho
      refine ⟨_, _, rfl, fun other hd => ?_⟩
      have hclassify : Argument.classify registry (earlier ++ (other ++ later)) =
          .ok (found ++ (other.map Argument.positional ++ rest)) := by
        rw [Argument.classify_insert he hd, hl]
        rfl
      rw [read_eq_of_classify hclassify, ofArguments_append, hs]
      rfl

theorem read_append
    (hv : ∀ spelling, Argument.classify registry tokens ≠ .error (.missingValue spelling))
    (hl : ∀ token ∈ later, Argument.isDashed token = false) :
    read registry (tokens ++ later) = (read registry tokens).map fun own =>
      { own with positionals := own.positionals ++ later } := by
  cases hc : Argument.classify registry tokens with
  | error fault =>
      have hf (spelling : String) : fault ≠ .missingValue spelling :=
        fun hs => hv spelling (hs ▸ hc)
      rw [read_eq_error_of_classify hc,
        read_eq_error_of_classify (Argument.classify_append_of_error hc hf)]
      rfl
  | ok found =>
      have hclassify : Argument.classify registry (tokens ++ (later ++ [])) =
          .ok (found ++ (later.map Argument.positional ++ [])) := by
        rw [Argument.classify_insert hc hl]
        cases Argument.endsFlags registry tokens <;> rfl
      rw [List.append_nil] at hclassify
      rw [read_eq_of_classify hclassify, read_eq_of_classify hc, ofArguments_append,
        List.append_nil]
      cases hb : found.foldlM Argument.bind default with
      | error fault =>
          rw [ofArguments_eq_error hb]
          rfl
      | ok settings =>
          rw [ofArguments_eq_ok hb]
          simp [Except.map]

theorem read_positionals (h : ∀ token ∈ tokens, Argument.isDashed token = false) :
    read registry tokens = .ok ⟨default, .empty, tokens⟩ := by
  have hnil : read registry [] = .ok ⟨default, .empty, []⟩ := rfl
  rw [← List.nil_append tokens, read_append (fun _ hf => by cases hf) h, hnil]
  rfl

end OwnArguments

end ProtocInvocation
