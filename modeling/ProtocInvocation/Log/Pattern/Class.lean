import ProtocInvocation.Log.Pattern.Sign

/-!
# Classes of patterns

A class in brackets lists characters, ranges of them, named classes and classes in brackets, and
joins such lists by operators. What is asked of it is only how deep it nests.
-/

namespace ProtocInvocation.Log.Pattern

open Text (Reader readMany readSteps)

/-- How deep several things nest in one when they nest this deep by themselves. One thing alone is
no deeper than by itself. -/
def joinedNesting : List Nat → Nat
  | [] => 0
  | [n] => n
  | ns => ns.foldl max 0 + 1

/-- A list that is being read in a class: what is before its last operator, and what is behind. -/
structure ClassScope where
  /-- How deep the operands nest up to the last operator, if there is one. -/
  left : Option Nat := none
  /-- How deep the members behind it nest. -/
  members : List Nat := []
  deriving DecidableEq, Repr

namespace ClassScope

/-- How deep a list nests. -/
def nesting (scope : ClassScope) : Nat :=
  match scope.left with
  | none => joinedNesting scope.members
  | some n => max n (joinedNesting scope.members) + 1

/-- Adds a member. -/
def add (scope : ClassScope) (nesting : Nat) : ClassScope :=
  { scope with members := nesting :: scope.members }

end ClassScope

/-! ## Members -/

/-- The classes of characters that have names. -/
def classNames : List String :=
  ["alnum", "alpha", "ascii", "blank", "cntrl", "digit", "graph", "lower", "print", "punct",
   "space", "upper", "word", "xdigit"]

/-- Reads a named class behind its opening bracket, and whether it stands for all others. -/
def readNamed : Reader Bool
  | ':' :: input =>
    let negated := input.head? = some '^'
    let named := if negated then input.tail else input
    let name := named.takeWhile (· ≠ ':')
    match named.drop name.length with
    | ':' :: ']' :: rest =>
      if classNames.contains (String.ofList name) then some (negated, rest) else none
    | _ => none
  | _ => none

/-- Whether a named class is supported. -/
def admitsNamed (mode : Mode) (negated : Bool) : Bool :=
  if mode.unicode then !mode.caseless else !negated

/-- Drops a sign of a class, or a range from one character to another. -/
def dropMember? (mode : Mode) (input : List Char) : Option (List Char) := do
  let (sign, rest) ← readMember mode input
  let rest := mode.skip rest
  match rest with
  | '-' :: after =>
    if mode.peek? after = some ']' ∨ mode.peek? after = some '-' then
      if sign.isMember mode then return rest else none
    else
      let (last, rest) ← readMember mode (mode.skip after)
      match sign, last with
      | .character low _, .character high _ =>
        if low ≤ high ∧ sign.isMember mode ∧ last.isMember mode then return rest else none
      | _, _ => none
  | _ => if sign.isMember mode then return rest else none

/-! ## Brackets -/

/-- Reads a hyphen at the beginning of a class. -/
def readHyphen (mode : Mode) : Reader Unit
  | '-' :: rest => some ((), mode.skip rest)
  | _ => none

/-- Reads the beginning of a class behind its bracket: a caret, and hyphens or a closing bracket
that are members. -/
def readBeginning (mode : Mode) : Reader ClassScope := fun input =>
  let input := mode.skip input
  let negated := input.head? = some '^'
  let input := if negated then mode.skip input.tail else input
  let (hyphens, rest) := readMany (readHyphen mode) input
  let (members, rest) :=
    match hyphens, rest with
    | [], ']' :: rest => ([0], mode.skip rest)
    | _, _ => (hyphens.map fun _ => 0, rest)
  if (negated ∧ !mode.unicode) ∨ (members ≠ [] ∧ !(Sign.character '-' false).isMember mode) then
    none
  else some ({ members }, rest)

/-- Reads the next part of a class, when a list is read and others around it have begun. -/
def stepClass (mode : Mode) : List ClassScope → Reader (List ClassScope ⊕ Nat)
  | [], _ => none
  | scope :: outer, input =>
    match mode.skip input with
    | ']' :: rest =>
      match outer with
      | [] => some (.inr (scope.nesting + 1), rest)
      | above :: outer => some (.inl (above.add (scope.nesting + 1) :: outer), rest)
    | '[' :: rest =>
      match readNamed rest with
      | some (negated, rest) =>
        if admitsNamed mode negated then some (.inl (scope.add 0 :: outer), rest) else none
      | none =>
        (readBeginning mode rest).map fun (inner, rest) => (.inl (inner :: scope :: outer), rest)
    | '&' :: '&' :: rest | '-' :: '-' :: rest | '~' :: '~' :: rest =>
      some (.inl ({ left := some scope.nesting } :: outer), rest)
    | rest => (dropMember? mode rest).map (.inl (scope.add 0 :: outer), ·)

/-- Reads a class behind its bracket, and how deep it nests. -/
def readClass (mode : Mode) : Reader Nat := fun input => do
  let (scope, rest) ← readBeginning mode input
  readSteps (stepClass mode) [scope] rest

end ProtocInvocation.Log.Pattern
