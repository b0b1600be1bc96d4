import ProtocInvocation.Log.Pattern.Class
import ProtocInvocation.Text.Alphanumeric

/-!
# Patterns

A pattern is a regular expression. Only whether a text is one is ever asked, so a pattern is read
without being kept: the groups that are open, how deep their parts nest, and the names of groups,
which may not be repeated. A pattern between the braces of a field cannot say between braces how
often something is repeated, because the first closing brace ends the field.
-/

namespace ProtocInvocation.Log.Pattern

open Text (Reader readSteps)

/-- How deep a pattern may nest. -/
def nestingLimit : Nat := 250

/-- A part of a pattern. -/
inductive Part where
  /-- Flags for what follows, which cannot be repeated. -/
  | flags
  /-- Something that matches and nests so deep. -/
  | matching (nesting : Nat)
  deriving DecidableEq, Repr

/-- How deep a part nests. -/
def Part.nesting : Part → Nat
  | flags => 0
  | matching n => n

/-- A group that is being read, or the whole pattern. -/
structure Scope where
  mode : Mode := {}
  /-- How deep the alternatives nest that have been read. -/
  alternatives : List Nat := []
  /-- The parts of the alternative that is being read, the last one first. -/
  parts : List Part := []
  deriving DecidableEq, Repr

namespace Scope

/-- Ends an alternative. -/
def endAlternative (scope : Scope) : Scope :=
  { scope with
    alternatives := joinedNesting (scope.parts.map Part.nesting) :: scope.alternatives
    parts := [] }

/-- How deep a group nests. -/
def nesting (scope : Scope) : Nat :=
  joinedNesting scope.endAlternative.alternatives

/-- Adds a part. -/
def add (scope : Scope) (part : Part) : Scope :=
  { scope with parts := part :: scope.parts }

/-- Repeats the last part, if there is one that matches something. -/
def repeatLast? (scope : Scope) : Option Scope :=
  match scope.parts with
  | .matching n :: parts => some { scope with parts := .matching (n + 1) :: parts }
  | _ => none

end Scope

/-- What has been read of a pattern. -/
structure Progress where
  scope : Scope := {}
  /-- The groups around it, the inner ones first. -/
  outer : List Scope := []
  names : List (List Char) := []
  deriving DecidableEq, Repr

namespace Progress

/-- Adds a part to the group that is being read. -/
def add (progress : Progress) (part : Part) : Progress :=
  { progress with scope := progress.scope.add part }

/-- Opens a group. -/
def opened (progress : Progress) (mode : Mode) : Progress :=
  { progress with scope := { mode }, outer := progress.scope :: progress.outer }

/-- Closes a group. Its flags end with it. -/
def closed? (progress : Progress) : Option Progress :=
  match progress.outer with
  | [] => none
  | scope :: outer =>
    some { progress with scope := scope.add (.matching (progress.scope.nesting + 1)), outer }

/-- Opens a group with a name. -/
def named? (progress : Progress) (name : List Char) : Option Progress :=
  if name ∈ progress.names then none
  else some { progress.opened progress.scope.mode with names := name :: progress.names }

end Progress

/-! ## Groups -/

/-- Whether a text is the name of a group. -/
def isName (name : List Char) : Bool :=
  name.head?.any (fun c => c = '_' || Text.isAlphabetic c) &&
    name.all fun c => ['_', '.', '[', ']'].contains c || Text.isAlphanumeric c

/-- Reads a group with a name, from the name on. -/
def readNamedGroup (progress : Progress) : Reader Progress := fun input =>
  let name := input.takeWhile (· ≠ '>')
  match input.drop name.length with
  | _ :: rest => if isName name then (progress.named? name).map (·, rest) else none
  | [] => none

/-- Reads flags, for a group that they open or for what follows in this one. -/
def readFlags (progress : Progress) : Reader Progress := fun input =>
  let flags := input.takeWhile fun c => c ≠ ':' ∧ c ≠ ')'
  let mode := progress.scope.mode.set flags
  if !areFlags flags then none
  else
    match input.drop flags.length with
    | ':' :: rest => some (progress.opened mode, rest)
    | _ :: rest =>
      if flags = [] then none
      else some ({ progress with scope := { progress.scope.add .flags with mode } }, rest)
    | [] => none

/-- Reads the beginning of a group behind its parenthesis. -/
def readGroup (progress : Progress) : Reader Progress := fun input =>
  match progress.scope.mode.skip input with
  | '?' :: 'P' :: '<' :: rest => readNamedGroup progress rest
  | '?' :: '<' :: rest => readNamedGroup progress rest
  | '?' :: rest => readFlags progress rest
  | rest => some (progress.opened progress.scope.mode, rest)

/-! ## Patterns -/

/-- Drops the sign that makes a repetition match as little as it can. -/
def dropLazy : List Char → List Char
  | '?' :: rest => rest
  | rest => rest

/-- Reads the next part of a pattern, or at its end how deep it nests. -/
def step (progress : Progress) : Reader (Progress ⊕ Nat) := fun input =>
  let mode := progress.scope.mode
  match mode.skip input with
  | [] => if progress.outer = [] then some (.inr progress.scope.nesting, []) else none
  | '(' :: rest => (readGroup progress rest).map fun (progress, rest) => (.inl progress, rest)
  | ')' :: rest => progress.closed?.map (.inl ·, rest)
  | '|' :: rest => some (.inl { progress with scope := progress.scope.endAlternative }, rest)
  | '*' :: rest | '+' :: rest | '?' :: rest =>
    progress.scope.repeatLast?.map fun scope => (.inl { progress with scope }, dropLazy rest)
  | '{' :: _ => none
  | '[' :: rest =>
    (readClass mode rest).map fun (nesting, rest) => (.inl (progress.add (.matching nesting)), rest)
  | rest =>
    (readSign mode rest).bind fun (sign, rest) =>
      if sign.isSupported mode then some (.inl (progress.add (.matching 0)), rest) else none

/-- Whether a text is a pattern. -/
def isPattern (text : List Char) : Bool :=
  match readSteps step {} text with
  | some (nesting, _) => nesting ≤ nestingLimit
  | none => false

end ProtocInvocation.Log.Pattern
