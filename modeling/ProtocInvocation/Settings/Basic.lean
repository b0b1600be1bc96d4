/-!
# Settings

What the built-in flags set. Each field has a shape, which says what values its slot takes: a list
of texts, a truth value or a text. Settings are read and changed through slots, one per field, so
that a rule stated for shapes holds of every field.
-/

namespace ProtocInvocation

/-! ## Shapes -/

/-- What a slot holds. -/
inductive Shape where
  | list
  | flag
  | text
  deriving DecidableEq, Repr

namespace Shape

/-- The values of a slot of this shape. -/
@[reducible] def Value : Shape → Type
  | .list => List String
  | .flag => Bool
  | .text => String

/-- The value of a slot that nothing has set. -/
def zero : (shape : Shape) → shape.Value
  | .list => []
  | .flag => false
  | .text => ""

instance : (shape : Shape) → DecidableEq shape.Value
  | .list => inferInstanceAs (DecidableEq (List String))
  | .flag => inferInstanceAs (DecidableEq Bool)
  | .text => inferInstanceAs (DecidableEq String)

end Shape

/-! ## Fields -/

/-- What a built-in flag sets. -/
inductive Field where
  | includeDirPaths
  | includeImports
  | includeSourceInfo
  | printFreeFieldNumbers
  | output
  | errorFormat
  | pluginPathValues
  | encode
  | decode
  | decodeRaw
  | descriptorSetIn
  deriving DecidableEq, Repr

namespace Field

/-- Every field. -/
def all : List Field :=
  [includeDirPaths, includeImports, includeSourceInfo, printFreeFieldNumbers, output, errorFormat,
    pluginPathValues, encode, decode, decodeRaw, descriptorSetIn]

theorem mem_all (field : Field) : field ∈ all := by
  cases field <;> decide

/-- The shape of the field's slot. -/
@[reducible] def shape : Field → Shape
  | includeDirPaths | pluginPathValues | descriptorSetIn => .list
  | includeImports | includeSourceInfo | printFreeFieldNumbers | decodeRaw => .flag
  | output | errorFormat | encode | decode => .text

end Field

/-! ## Slots -/

/-- The value of every field. -/
@[ext] structure Settings where
  includeDirPaths : List String := []
  includeImports : Bool := false
  includeSourceInfo : Bool := false
  printFreeFieldNumbers : Bool := false
  output : String := ""
  errorFormat : String := ""
  pluginPathValues : List String := []
  encode : String := ""
  decode : String := ""
  decodeRaw : Bool := false
  descriptorSetIn : List String := []
  deriving DecidableEq, Repr, Inhabited

namespace Settings

variable {s t : Settings} {f g : Field}

/-- The value in the slot of a field. -/
def get (s : Settings) : (field : Field) → field.shape.Value
  | .includeDirPaths => s.includeDirPaths
  | .includeImports => s.includeImports
  | .includeSourceInfo => s.includeSourceInfo
  | .printFreeFieldNumbers => s.printFreeFieldNumbers
  | .output => s.output
  | .errorFormat => s.errorFormat
  | .pluginPathValues => s.pluginPathValues
  | .encode => s.encode
  | .decode => s.decode
  | .decodeRaw => s.decodeRaw
  | .descriptorSetIn => s.descriptorSetIn

/-- The settings with these values in their slots. -/
def ofSlots (slot : (field : Field) → field.shape.Value) : Settings where
  includeDirPaths := slot .includeDirPaths
  includeImports := slot .includeImports
  includeSourceInfo := slot .includeSourceInfo
  printFreeFieldNumbers := slot .printFreeFieldNumbers
  output := slot .output
  errorFormat := slot .errorFormat
  pluginPathValues := slot .pluginPathValues
  encode := slot .encode
  decode := slot .decode
  decodeRaw := slot .decodeRaw
  descriptorSetIn := slot .descriptorSetIn

/-- The settings with another value in the slot of `field`. -/
def set (s : Settings) (field : Field) (value : field.shape.Value) : Settings :=
  ofSlots fun g => if h : field = g then h ▸ value else s.get g

@[simp] theorem get_ofSlots (slot : (field : Field) → field.shape.Value) :
    (ofSlots slot).get f = slot f := by
  cases f <;> rfl

@[simp] theorem ofSlots_get : ofSlots s.get = s := rfl

/-- Settings are equal if all their slots are. -/
theorem ext_get (h : ∀ f, s.get f = t.get f) : s = t := by
  rw [← ofSlots_get (s := s), ← ofSlots_get (s := t)]
  exact congrArg ofSlots (funext h)

@[simp] theorem get_set_self {value : f.shape.Value} : (s.set f value).get f = value := by
  simp [set]

theorem get_set_of_ne {value : f.shape.Value} (h : f ≠ g) : (s.set f value).get g = s.get g := by
  simp [set, h]

@[simp] theorem set_get : s.set f (s.get f) = s := by
  apply ext_get
  intro g
  by_cases h : f = g
  · subst h
    exact get_set_self
  · exact get_set_of_ne h

@[simp] theorem get_default : (default : Settings).get f = f.shape.zero := by
  cases f <;> rfl

/-- Whether a field has been set, as far as its value shows. -/
def isSet (s : Settings) (field : Field) : Bool :=
  s.get field ≠ field.shape.zero

end Settings

end ProtocInvocation
