import Mathlib.Data.List.Basic
import ProtocInvocation.Environment.Document
import ProtocInvocation.Proofs.Json

/-!
# Environments that print alike

A part of an environment is read off its document: a missing output is null and so no text, and
entries that are left out are told from those that are there by their names. As a document is
determined by its text, environments that print alike are equal.

Main statement: `Environment.print_eq_iff`.
-/

namespace ProtocInvocation

/-! ## Parts -/

namespace Json

theorem texts_inj {values others : List String} (h : texts values = texts others) :
    values = others :=
  List.map_injective_iff.2 (fun _ _ => text.inj) (list.inj h)

theorem text?_inj {value other : Option String} (h : text? value = text? other) :
    value = other := by
  cases value <;> cases other <;> simp_all [text?]

end Json

theorem ErrorFormat.name_inj {format other : ErrorFormat} (h : format.name = other.name) :
    format = other := by
  have ho := congrArg ofName? h
  rw [ofName?_name, ofName?_name] at ho
  exact Option.some.inj ho

/-- Options and a path are told apart by their names, and an empty text is not a missing one. -/
theorem PluginEntry.toJson_inj {entry other : PluginEntry} (h : entry.toJson = other.toJson) :
    entry = other := by
  obtain ⟨out, opt, path⟩ := entry
  obtain ⟨out', opt', path'⟩ := other
  cases opt <;> cases path <;> cases opt' <;> cases path' <;> simp_all [toJson]

theorem PluginTable.toJson_inj {table other : PluginTable} (h : table.toJson = other.toJson) :
    table = other := by
  obtain ⟨entries, _⟩ := table
  obtain ⟨entries', _⟩ := other
  have hi : Function.Injective fun e : String × PluginEntry => (e.1, e.2.toJson) :=
    fun e f he => Prod.ext (Prod.mk.inj he).1 (PluginEntry.toJson_inj (Prod.mk.inj he).2)
  obtain rfl : entries = entries' := List.map_injective_iff.2 hi (Json.object.inj h)
  rfl

/-! ## Environments -/

namespace Environment

variable {env other : Environment}

theorem toJson_inj (h : env.toJson = other.toJson) : env = other := by
  simp only [toJson, Json.object.injEq, List.cons.injEq, Prod.mk.injEq, true_and, and_true,
    Json.bool.injEq, Json.text.injEq] at h
  obtain ⟨hinclude, himports, hsource, hfree, houtput, hformat, hplugins, hfiles⟩ := h
  obtain ⟨⟩ := env
  obtain ⟨⟩ := other
  simp only [mk.injEq]
  exact ⟨Json.texts_inj hinclude, himports, hsource, hfree, Json.text?_inj houtput,
    ErrorFormat.name_inj hformat, PluginTable.toJson_inj hplugins, Json.texts_inj hfiles⟩

/-- Two environments are printed as one text exactly when they are equal, whatever characters their
paths, options and plugin names are made of and whichever parts they lack. -/
theorem print_eq_iff : env.print = other.print ↔ env = other := by
  constructor
  · intro h
    exact toJson_inj (Json.render_inj (String.append_left_inj _ |>.1 h))
  · rintro rfl
    rfl

end Environment

end ProtocInvocation
