import ProtocInvocation.Proofs.Settings.Binding

/-!
# Bindings made in place

A flag can be bound to settings where they stand, so that what is written stays, also if the binding
is refused after it (`Shape.takeUp`). Nothing is written before all is known that can be wrong, so a
refused binding leaves the settings as they were, and one that is not refused leaves those of
`Settings.bind` (`Binding.make_of_error`, `Binding.make_of_ok`). A binding is refused for what it
says itself, never for what the settings hold, and it reads and writes the slot of its own field
only. So a run of bindings, which goes on after a refused one, comes to the same in each slot as its
bindings for that field alone. Main statement: `Binding.makeAll_apart`.
-/

namespace ProtocInvocation

/-! ## Slots -/

/-- A step that changes a value where it stands. It ends well or with a fault, and what it has
written stays in both cases. -/
abbrev Changing (σ : Type) := ExceptT Fault (StateM σ)

/-- Takes up an occurrence of `flag` with this value, the parts between commas one by one. -/
def Shape.takeUp (flag : String) :
    (shape : Shape) → Option String → Changing shape.Value Unit
  | .list, some value => (Text.pieces ',' value).forM fun piece => modify (· ++ [piece])
  | .flag, none => set true
  | .flag, some value =>
    match readBool? value with
    | some b => set b
    | none => throw (.invalidBool flag value)
  | .text, some value => set value
  | .list, none | .text, none => throw (.missingValue flag)

/-- What occurrences of a flag leave in a slot that holds `held`: a list takes up all parts of their
values, a truth value or a text is that of the last one. -/
def Shape.receivedAfter : (shape : Shape) → shape.Value → List (Option String) → shape.Value
  | .list, held, values => held ++ list.received values
  | .flag, held, values => if values = [] then held else flag.received values
  | .text, held, values => if values = [] then held else text.received values

namespace Shape

variable {shape : Shape} {flag : String} {value : Option String} {held next : shape.Value}

theorem run_forM_modify (pieces held : List String) :
    ((pieces.forM fun piece => modify (· ++ [piece]) :
      Changing (List String) PUnit).run.run held).run = (.ok (), held ++ pieces) := by
  induction pieces generalizing held with
  | nil =>
      rw [List.append_nil]
      rfl
  | cons piece pieces ih =>
      rw [List.append_cons]
      exact ih (held ++ [piece])

/-- In place a slot comes to what `receive` gives, and stays as it is if that refuses. -/
theorem run_takeUp : ((shape.takeUp flag value).run.run held).run =
    match shape.receive flag value held with
    | .ok next => (.ok (), next)
    | .error fault => (.error fault, held) := by
  cases shape with
  | list =>
      cases value with
      | none => rfl
      | some text => exact run_forM_modify (Text.pieces ',' text) held
  | flag =>
      cases value with
      | none => rfl
      | some text =>
          simp only [takeUp, receive]
          cases readBool? text with
          | none => rfl
          | some b => rfl
  | text =>
      cases value with
      | none => rfl
      | some text => rfl

/-- Only a list has any use for what its slot holds. -/
theorem receive_eq (h : shape ≠ .list) (other : shape.Value) :
    shape.receive flag value held = shape.receive flag value other := by
  cases shape with
  | list => exact absurd rfl h
  | flag => cases value <;> rfl
  | text => cases value <;> rfl

/-- Whether and how a slot refuses an occurrence does not depend on what it holds. -/
theorem map_receive_eq (other : shape.Value) :
    (shape.receive flag value held).map (fun _ => ()) =
      (shape.receive flag value other).map (fun _ => ()) := by
  by_cases h : shape = .list
  · subst h
    cases value <;> rfl
  · rw [receive_eq h other]

theorem receivedAfter_nil : shape.receivedAfter held [] = held := by
  cases shape with
  | list => exact List.append_nil held
  | flag => rfl
  | text => rfl

theorem receivedAfter_eq_received (h : shape ≠ .list) (value : Option String)
    (values : List (Option String)) :
    shape.receivedAfter held (value :: values) = shape.received (value :: values) := by
  cases shape with
  | list => exact absurd rfl h
  | flag => rfl
  | text => rfl

theorem received_cons_cons (h : shape ≠ .list) (value last : Option String)
    (values : List (Option String)) :
    shape.received (value :: last :: values) = shape.received (last :: values) := by
  cases shape with
  | list => exact absurd rfl h
  | flag => rfl
  | text => rfl

/-- An occurrence that is taken up can be counted with the later ones. -/
theorem receivedAfter_of_receive (h : shape.receive flag value held = .ok next)
    (values : List (Option String)) :
    shape.receivedAfter next values = shape.receivedAfter held (value :: values) := by
  -- a list adds to what it holds, and the other shapes keep nothing of it
  by_cases hs : shape = .list
  · subst hs
    cases value with
    | none => cases h
    | some text =>
        obtain rfl : held ++ Text.pieces ',' text = next := Except.ok.inj h
        exact List.append_assoc held (Text.pieces ',' text) (received .list values)
  · rw [receivedAfter_eq_received hs]
    cases values with
    | nil =>
        rw [receive_eq hs (received shape [])] at h
        exact receivedAfter_nil.trans (receive_received h)
    | cons last values => rw [receivedAfter_eq_received hs, received_cons_cons hs]

end Shape

/-! ## Settings -/

/-- A flag to be bound: what it sets, how it is spelled, and its value. -/
structure Binding where
  field : Field
  flag : String
  value : Option String
  deriving DecidableEq, Repr

namespace Binding

/-- Makes a binding in place: how it ends, and the settings it leaves. -/
def make (b : Binding) (s : Settings) : Except Fault Unit × Settings :=
  let (outcome, held) := ((b.field.shape.takeUp b.flag b.value).run.run (s.get b.field)).run
  (outcome, s.set b.field held)

/-- Makes bindings in place, one after the other whether or not they are refused. -/
def makeAll : List Binding → Settings → List (Except Fault Unit) × Settings
  | [], s => ([], s)
  | b :: later, s =>
    let (outcome, between) := b.make s
    let (outcomes, last) := makeAll later between
    (outcome :: outcomes, last)

/-- How a binding ends, on settings that nothing has set as on any others. -/
def outcome (b : Binding) : Except Fault Unit :=
  (b.make default).1

/-- The value that a binding leaves to `field`, unless it is refused or for another field. -/
def taken? (field : Field) (b : Binding) : Option (Option String) :=
  if b.field = field ∧ b.outcome = .ok () then some b.value else none

variable {b c : Binding} {s t : Settings} {f : Field} {fault : Fault}
  {bindings others : List Binding}

/-! ### One binding -/

theorem make_of_ok (h : s.bind b.field b.flag b.value = .ok t) : b.make s = (.ok (), t) := by
  obtain ⟨held, hr, rfl⟩ := map_eq_ok_iff.1 h
  rw [make, Shape.run_takeUp, hr]

theorem make_of_error (h : s.bind b.field b.flag b.value = .error fault) :
    b.make s = (.error fault, s) := by
  have hr := map_eq_error_iff.1 h
  rw [make, Shape.run_takeUp, hr]
  exact congrArg (Prod.mk _) Settings.set_get

/-- What the settings hold has no part in how a binding ends. -/
theorem fst_make : (b.make s).1 = b.outcome := by
  have hend (s : Settings) : (b.make s).1 =
      (b.field.shape.receive b.flag b.value (s.get b.field)).map fun _ => () := by
    rw [make, Shape.run_takeUp]
    cases b.field.shape.receive b.flag b.value (s.get b.field) <;> rfl
  rw [outcome, hend, hend, Shape.map_receive_eq]

theorem get_make_of_ne (h : b.field ≠ f) : (b.make s).2.get f = s.get f :=
  Settings.get_set_of_ne h

theorem taken?_of_ne (h : b.field ≠ f) : b.taken? f = none :=
  if_neg fun ht => h ht.1

theorem taken?_of_ok (h : b.outcome = .ok ()) : b.taken? b.field = some b.value :=
  if_pos ⟨rfl, h⟩

theorem taken?_of_error (h : b.outcome = .error fault) : b.taken? f = none := by
  refine if_neg fun ht => ?_
  cases h.symm.trans ht.2

/-- A binding that is made can be counted with the later ones, if it is for the field and is not
refused, and otherwise left out. -/
theorem receivedAfter_make (values : List (Option String)) :
    f.shape.receivedAfter ((b.make s).2.get f) values =
      f.shape.receivedAfter (s.get f) ((b.taken? f).toList ++ values) := by
  by_cases hf : b.field = f
  · subst hf
    cases h : s.bind b.field b.flag b.value with
    | error fault =>
        have hend : b.outcome = .error fault := fst_make.symm.trans (by rw [make_of_error h])
        rw [make_of_error h, taken?_of_error hend]
        rfl
    | ok t =>
        have hend : b.outcome = .ok () := fst_make.symm.trans (by rw [make_of_ok h])
        obtain ⟨held, hr, rfl⟩ := map_eq_ok_iff.1 h
        rw [make_of_ok h, taken?_of_ok hend, Settings.get_set_self]
        exact Shape.receivedAfter_of_receive hr values
  · rw [get_make_of_ne hf, taken?_of_ne hf]
    rfl

/-! ### Runs of bindings -/

theorem fst_makeAll : (makeAll bindings s).1 = bindings.map outcome := by
  induction bindings generalizing s with
  | nil => rfl
  | cons b later ih => exact congrArg₂ List.cons fst_make ih

/-- In each slot a run comes to the values that its bindings for the field have left there. -/
theorem get_makeAll : (makeAll bindings s).2.get f =
    f.shape.receivedAfter (s.get f) (bindings.filterMap (taken? f)) := by
  induction bindings generalizing s with
  | nil => exact Shape.receivedAfter_nil.symm
  | cons b later ih =>
      calc (makeAll later (b.make s).2).2.get f
        _ = f.shape.receivedAfter ((b.make s).2.get f) (later.filterMap (taken? f)) := ih
        _ = f.shape.receivedAfter (s.get f) ((b.taken? f).toList ++ later.filterMap (taken? f)) :=
            receivedAfter_make _
        _ = f.shape.receivedAfter (s.get f) ((b :: later).filterMap (taken? f)) := by
            rw [List.filterMap_cons]
            cases b.taken? f <;> rfl

theorem filterMap_taken?_filter :
    (bindings.filter (·.field = f)).filterMap (taken? f) = bindings.filterMap (taken? f) := by
  rw [List.filterMap_filter]
  refine List.filterMap_congr fun b _ => ?_
  by_cases h : b.field = f
  · simp [h]
  · simp [h, taken?_of_ne h]

/-- Bindings come to the same in any order that keeps those for each field in theirs. -/
theorem snd_makeAll_of_filter_eq
    (h : ∀ f, others.filter (·.field = f) = bindings.filter (·.field = f)) :
    (makeAll others s).2 = (makeAll bindings s).2 := by
  apply Settings.ext_get
  intro f
  rw [get_makeAll, get_makeAll, ← filterMap_taken?_filter, h f, filterMap_taken?_filter]

theorem filter_swap (h : b.field ≠ c.field) (f : Field) :
    [c, b].filter (·.field = f) = [b, c].filter (·.field = f) := by
  by_cases hb : b.field = f
  · have hc : c.field ≠ f := fun hc => h (hb.trans hc.symm)
    simp [hb, hc]
  · simp [List.filter_cons, hb]

/-- A binding that is refused leaves the settings as they were, and one that is not changes the slot
of its field alone. Each ends as it would by itself, and in each slot a run comes to what the
bindings for that field that were not refused have left there. So bindings for different fields can
change places: both end as before, and what they leave is the same. -/
theorem makeAll_apart (bindings : List Binding) (s : Settings) :
    (∀ (b : Binding) (t : Settings) (fault : Fault),
      t.bind b.field b.flag b.value = .error fault → b.make t = (.error fault, t)) ∧
    (∀ (b : Binding) (t u : Settings), t.bind b.field b.flag b.value = .ok u →
      b.make t = (.ok (), u) ∧ ∀ f, b.field ≠ f → u.get f = t.get f) ∧
    (makeAll bindings s).1 = bindings.map outcome ∧
    (∀ f, (makeAll bindings s).2.get f =
      f.shape.receivedAfter (s.get f) (bindings.filterMap (taken? f))) ∧
    ∀ b c : Binding, b.field ≠ c.field → ∀ t, ∃ u,
      makeAll [b, c] t = ([b.outcome, c.outcome], u) ∧
        makeAll [c, b] t = ([c.outcome, b.outcome], u) := by
  refine ⟨fun b t fault h => make_of_error h, fun b t u h => ⟨make_of_ok h, fun f hf => ?_⟩,
    fst_makeAll, fun f => get_makeAll, fun b c h t => ?_⟩
  · calc u.get f
      _ = (b.make t).2.get f := by rw [make_of_ok h]
      _ = t.get f := get_make_of_ne hf
  · refine ⟨(makeAll [b, c] t).2, Prod.ext fst_makeAll rfl, Prod.ext fst_makeAll ?_⟩
    exact snd_makeAll_of_filter_eq (filter_swap h)

/-- Bindings of every shape, with refused ones before, between and after the others. -/
def mixed : List Binding :=
  [ ⟨.decodeRaw, "--decode_raw", some "yes"⟩, ⟨.includeDirPaths, "-I", some "a,b"⟩,
    ⟨.output, "-o", none⟩, ⟨.decodeRaw, "--decode_raw", none⟩, ⟨.includeDirPaths, "-I", none⟩,
    ⟨.output, "-o", some ""⟩, ⟨.includeDirPaths, "-I", some "c,"⟩,
    ⟨.decodeRaw, "--decode_raw", some "F"⟩, ⟨.decodeRaw, "--decode_raw", some "maybe"⟩ ]

/-- Of a truth value and a text the last binding that is not refused stays, also if it is the blank
one, and a slot without a binding stays as it was. -/
theorem makeAll_apart_mixed :
    makeAll mixed { includeDirPaths := ["."], output := "x", errorFormat := "gcc" } =
      ([.error (.invalidBool "--decode_raw" "yes"), .ok (), .error (.missingValue "-o"), .ok (),
          .error (.missingValue "-I"), .ok (), .ok (), .ok (),
          .error (.invalidBool "--decode_raw" "maybe")],
        { includeDirPaths := [".", "a", "b", "c", ""], errorFormat := "gcc" }) ∧
    make ⟨.output, "-o", none⟩ { output := "x" } = (.error (.missingValue "-o"), { output := "x" }) ∧
    (make ⟨.output, "-o", some "y"⟩ { output := "x", encode := "z" } =
        (.ok (), { output := "y", encode := "z" }) ∧
      Settings.get { output := "y", encode := "z" } .encode =
        Settings.get { output := "x", encode := "z" } .encode) ∧
    ∃ u, makeAll [⟨.output, "-o", some "y"⟩, ⟨.decodeRaw, "--decode_raw", some "no"⟩] default =
        ([.ok (), .error (.invalidBool "--decode_raw" "no")], u) ∧
      makeAll [⟨.decodeRaw, "--decode_raw", some "no"⟩, ⟨.output, "-o", some "y"⟩] default =
        ([.error (.invalidBool "--decode_raw" "no"), .ok ()], u) := by
  obtain ⟨hrefused, hmade, hends, hget, hswap⟩ :=
    makeAll_apart mixed { includeDirPaths := ["."], output := "x", errorFormat := "gcc" }
  have hwritten := hmade ⟨.output, "-o", some "y"⟩ { output := "x", encode := "z" } _ rfl
  refine ⟨Prod.ext (hends.trans (by decide +kernel)) (Settings.ext_get fun f => (hget f).trans ?_),
    hrefused _ _ _ rfl, ⟨hwritten.1, hwritten.2 .encode (by decide)⟩, hswap _ _ (by decide) _⟩
  cases f <;> decide +kernel

end Binding

end ProtocInvocation
