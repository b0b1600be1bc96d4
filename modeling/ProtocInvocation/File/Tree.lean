import ProtocInvocation.Fallible
import ProtocInvocation.File.Store
import ProtocInvocation.File.Path

/-!
# Trees of files

A tree of directories and files with a working directory, and what a path in it gives. A path is
followed name by name: a dot or an empty name stays, two dots go up, any other name goes down and
must be there, and nothing goes on from a file. Every tree is a file store.
-/

namespace ProtocInvocation

/-- What stands at a place of a tree. -/
inductive FileItem where
  | file (content : ByteArray)
  | directory

/-- The text of an item, if it is a file that holds text. -/
def FileItem.read : FileItem → Except ReadFault String
  | .directory => .error .isDirectory
  | .file content =>
    match String.fromUTF8? content with
    | some text => .ok text
    | none => .error .notText

/-- A tree of files. A place is the list of names that lead to it from the root, the last name
first. -/
structure FileTree where
  /-- What stands below the root. -/
  items : List (List String × FileItem)
  workingDirectory : List String

namespace FileTree

variable {tree : FileTree} {place : List String} {item found : FileItem} {names : List String}
  {path text : String}

/-- The longest path that the system takes, in bytes. -/
def pathLimit : Nat := 4095

/-- The longest name that the system takes, in bytes. -/
def nameLimit : Nat := 255

/-! ## Following a path -/

/-- What stands at `place`; the root is a directory. -/
def item? (tree : FileTree) : List String → Option FileItem
  | [] => some .directory
  | name :: above => tree.items.lookup (name :: above)

/-- Follows `names` from the item at `place`. -/
def follow (tree : FileTree) (place : List String) :
    FileItem → List String → Except ReadFault FileItem
  | item, [] => .ok item
  | .file _, _ :: _ => .error .notADirectory
  | .directory, name :: names =>
    if name = "" ∨ name = "." then follow tree place .directory names
    else if name = ".." then follow tree place.tail .directory names
    else if name.utf8ByteSize > nameLimit then .error .nameTooLong
    else
      match tree.item? (name :: place) with
      | none => .error .notFound
      | some item => follow tree (name :: place) item names

/-- The item that `path` names. -/
def find (tree : FileTree) (path : String) : Except ReadFault FileItem :=
  if path.toList.contains '\x00' then .error .nulInPath
  else if path = "" then .error .notFound
  else if path.utf8ByteSize > pathLimit then .error .nameTooLong
  else
    follow tree (if path.toList.head? = some '/' then [] else tree.workingDirectory)
      .directory (Text.pieces '/' path)

/-- The text that `path` names. -/
def read (tree : FileTree) (path : String) : Except ReadFault String := do
  (← tree.find path).read

/-! ## Building a tree -/

/-- Puts an item at a place, in front of what stood there. -/
def put (tree : FileTree) (place : List String) (item : FileItem) : FileTree :=
  { tree with items := (place, item) :: tree.items }

/-- Makes a directory of `place`, and of the places above it, where nothing stands yet. -/
def makeDirectory (tree : FileTree) : List String → FileTree
  | [] => tree
  | name :: above =>
    let tree := tree.makeDirectory above
    if (tree.item? (name :: above)).isSome then tree else tree.put (name :: above) .directory

/-- A tree that holds nothing but its working directory. -/
def ofWorkingDirectory (names : List String) : FileTree :=
  FileTree.makeDirectory ⟨[], names.reverse⟩ names.reverse

/-- Goes from `place` along names, and makes a directory of every place on the way where nothing
stands yet. Two dots go up, also from a directory that was made just before. -/
def makeWay (tree : FileTree) (place : List String) : List String → FileTree × List String
  | [] => (tree, place)
  | name :: names =>
    if name = ".." then tree.makeWay place.tail names
    else (tree.makeDirectory (name :: place)).makeWay (name :: place) names

/-- Adds a directory, with the directories that lead to it. -/
def addDirectory (tree : FileTree) (path : String) : FileTree :=
  (tree.makeWay tree.workingDirectory (Path.names path)).1

/-- Adds a file, with the directories that lead to it. -/
def addFile (tree : FileTree) (path : String) (content : ByteArray) : FileTree :=
  let names := Path.names path
  let (tree, place) := tree.makeWay tree.workingDirectory names.dropLast
  tree.put (names.getLast?.toList ++ place) (.file content)

/-! ## The texts of a tree -/

theorem mem_of_lookup {entries : List (List String × FileItem)}
    (h : entries.lookup place = some item) : (place, item) ∈ entries := by
  induction entries with
  | nil => simp at h
  | cons e rest ih =>
      obtain ⟨p, i⟩ := e
      by_cases hp : place = p
      · subst hp
        simp_all
      · have hb : (place == p) = false := by simpa using hp
        exact List.mem_cons_of_mem _ (ih (by simpa [List.lookup_cons, hb] using h))

theorem item?_eq_some (h : tree.item? place = some item) :
    item = .directory ∨ (place, item) ∈ tree.items := by
  cases place with
  | nil => simp_all [item?]
  | cons name above => exact .inr (mem_of_lookup h)

/-- Following a path ends where it began, at a directory or at an item of the tree. -/
theorem follow_eq_ok (h : follow tree place item names = .ok found) :
    found = item ∨ found = .directory ∨ ∃ there, (there, found) ∈ tree.items := by
  fun_induction follow tree place item names with
  | case1 => simp_all
  | case2 => simp at h
  | case3 _ _ _ _ ih => exact .inr ((ih h).elim .inl id)
  | case4 _ _ _ ih => exact .inr ((ih h).elim .inl id)
  | case5 => simp at h
  | case6 => simp at h
  | case7 _ _ _ _ _ _ _ there ih =>
      rcases ih h with rfl | later
      · exact .inr ((item?_eq_some there).imp id fun hm => ⟨_, hm⟩)
      · exact .inr later

/-- Every text read from a tree is the text of one of its items. -/
theorem mem_of_read (h : tree.read path = .ok text) :
    text ∈ tree.items.filterMap (fun e => e.2.read.toOption) := by
  obtain ⟨item, hf, h⟩ := bind_eq_ok_iff.1 h
  simp only [find] at hf
  split at hf
  · simp at hf
  split at hf
  · simp at hf
  split at hf
  · simp at hf
  rcases follow_eq_ok hf with rfl | rfl | ⟨there, hm⟩
  · simp [FileItem.read] at h
  · simp [FileItem.read] at h
  · exact List.mem_filterMap.2 ⟨_, hm, by simp [h, Except.toOption]⟩

/-- A tree as a file store. -/
def toStore (tree : FileTree) : FileStore where
  read := tree.read
  texts := tree.items.filterMap fun e => e.2.read.toOption
  mem_texts := mem_of_read

end FileTree

end ProtocInvocation
