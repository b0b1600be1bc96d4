import ProtocInvocation.Toml.Scalar

/-!
# Tables

The values of a configuration file, and how its statements build up the table that they describe. A
table remembers how it came to be, because that decides which later statements may add to it: a
header may define a table once, dotted keys may add only to a table that dotted keys made, and
nothing reaches into a table that was written in braces.
-/

namespace ProtocInvocation.Toml

/-- How a table came to be. -/
inductive Standing where
  /-- A header names a table below it. -/
  | implied
  /-- A dotted key passes through it. -/
  | dotted
  /-- A header names it. -/
  | defined
  /-- It was written in braces. -/
  | closed
  deriving DecidableEq, Repr

/-- A value of a configuration file. -/
inductive Value where
  | text (value : String)
  | scalar (value : Scalar)
  | array (items : List Value)
  /-- Tables that headers in double brackets add, one by one. -/
  | tables (items : List (List (String × Value)))
  | table (standing : Standing) (entries : List (String × Value))
  deriving Repr

/-- Values by their keys, in the order of the keys' first appearance. -/
abbrev Table := List (String × Value)

/-! ## Values that can be read -/

mutual

/-- Whether every word in a value can be read. -/
def Value.isReadable : Value → Bool
  | .text _ => true
  | .scalar value => value.isReadable
  | .array items => areReadable items
  | .tables items => tablesReadable items
  | .table _ entries => entriesReadable entries

/-- Whether every word in a list of values can be read. -/
def areReadable : List Value → Bool
  | [] => true
  | value :: values => value.isReadable && areReadable values

/-- Whether every word in a list of tables can be read. -/
def tablesReadable : List (List (String × Value)) → Bool
  | [] => true
  | entries :: tables => entriesReadable entries && tablesReadable tables

/-- Whether every word in a table can be read. -/
def entriesReadable : List (String × Value) → Bool
  | [] => true
  | (_, value) :: entries => value.isReadable && entriesReadable entries

end

/-! ## Changes -/

namespace Table

/-- Changes the value of a key, or gives it one, unless the change refuses. -/
def alter? (key : String) (change : Option Value → Option Value) : Table → Option Table
  | [] => (change none).map fun value => [(key, value)]
  | entry :: entries =>
    if entry.1 = key then (change (some entry.2)).map fun value => (key, value) :: entries
    else (alter? key change entries).map (entry :: ·)

/-- Changes the last of a list of tables. -/
def alterLast? (change : Table → Option Table) : List Table → Option (List Table)
  | [] => none
  | [last] => (change last).map ([·])
  | table :: tables => (alterLast? change tables).map (table :: ·)

/-- Changes the table at the end of a header's path, which passes tables that are there or makes
them. In a list of tables the last is meant. -/
def alongHeader? (change : Table → Option Table) : List String → Table → Option Table
  | [] => change
  | key :: path => alter? key fun
    | none => (alongHeader? change path []).map (.table .implied)
    | some (.tables items) => (alterLast? (alongHeader? change path) items).map .tables
    | some (.table standing entries) =>
      if standing = .closed then none
      else (alongHeader? change path entries).map (.table standing)
    | some (.text _) | some (.scalar _) | some (.array _) => none

/-- Changes the table at the end of the dots of a key. The way may pass tables that headers imply or
list, but the table at its end must be one that only dots have made. -/
def alongDots? (change : Table → Option Table) : List String → Table → Option Table
  | [] => change
  | [key] => alter? key fun
    | none => (change []).map (.table .dotted)
    | some (.table .dotted entries) => (change entries).map (.table .dotted)
    | some _ => none
  | key :: path => alter? key fun
    | none => (alongDots? change path []).map (.table .dotted)
    | some (.tables items) => (alterLast? (alongDots? change path) items).map .tables
    | some (.table standing entries) =>
      if standing = .closed ∨ standing = .defined then none
      else (alongDots? change path entries).map (.table standing)
    | some (.text _) | some (.scalar _) | some (.array _) => none

/-- The end of a path and the way to it. -/
def splitPath (path : List String) : List String × String :=
  (path.dropLast, path.getLastD "")

/-- Gives a dotted key a value, which it must not have yet. -/
def assign? (path : List String) (value : Value) : Table → Option Table :=
  let (way, key) := splitPath path
  alongDots? (alter? key fun held => if held.isNone then some value else none) way

/-- Defines the table that a header names. -/
def define? (path : List String) : Table → Option Table :=
  let (way, key) := splitPath path
  alongHeader? (alter? key fun
    | none => some (.table .defined [])
    | some (.table .implied entries) => some (.table .defined entries)
    | some _ => none) way

/-- Adds a table to the list that a header in double brackets names. -/
def append? (path : List String) : Table → Option Table :=
  let (way, key) := splitPath path
  alongHeader? (alter? key fun
    | none => some (.tables [[]])
    | some (.tables items) => some (.tables (items ++ [[]]))
    | some _ => none) way

end Table

/-! ## Statements -/

/-- A statement of a configuration file. -/
inductive Statement where
  | assign (path : List String) (value : Value)
  /-- A header, which all assignments up to the next one belong to. -/
  | define (path : List String)
  /-- A header in double brackets. -/
  | append (path : List String)

/-- The table that statements build, begun with `table` under the header `header`. -/
def Table.build? (header : List String) (table : Table) : List Statement → Option Table
  | [] => some table
  | .assign path value :: later => do
    build? header (← alongHeader? (assign? path value) header table) later
  | .define path :: later => do build? path (← define? path table) later
  | .append path :: later => do build? path (← append? path table) later

end ProtocInvocation.Toml
