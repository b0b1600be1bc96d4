/-!
# Files as their reader sees them

A file system answers each path with a text or with the reason why there is none. Two paths may name
one file: nothing here compares paths. A file store is a file system whose texts can be listed,
which holds of every file system on a disk and bounds how far references from file to file can go.
-/

namespace ProtocInvocation

/-! ## Why a path gives no text -/

/-- Why a path gives no text. -/
inductive ReadFault where
  /-- Nothing has this name. -/
  | notFound
  /-- The path goes through a file. -/
  | notADirectory
  /-- The path names a directory. -/
  | isDirectory
  /-- The path or one of its names is longer than the system takes. -/
  | nameTooLong
  /-- The path holds the character that ends a path. -/
  | nulInPath
  /-- The file holds bytes that are not text. -/
  | notText
  /-- Any other refusal of the system, by its number and wording. -/
  | refused (code : Nat) (reason : String)
  deriving DecidableEq, Repr

/-- The wording of a reason, with the number of the system's error if it has one. -/
def ReadFault.message : ReadFault → String
  | .notFound => "No such file or directory (os error 2)"
  | .notADirectory => "Not a directory (os error 20)"
  | .isDirectory => "Is a directory (os error 21)"
  | .nameTooLong => "File name too long (os error 36)"
  | .nulInPath => "file name contained an unexpected NUL byte"
  | .notText => "stream did not contain valid UTF-8"
  | .refused code reason => reason ++ " (os error " ++ toString code ++ ")"

/-- Whether something stands at the path although it gives no text. -/
def ReadFault.isPresent : ReadFault → Bool
  | .isDirectory | .notText | .refused .. => true
  | .notFound | .notADirectory | .nameTooLong | .nulInPath => false

/-! ## File systems -/

/-- What each path gives. -/
structure FileSystem where
  read : String → Except ReadFault String

/-- A file system all of whose texts are in one list. -/
structure FileStore extends FileSystem where
  texts : List String
  mem_texts : ∀ {path text}, read path = .ok text → text ∈ texts

namespace FileStore

variable {answers : List (String × Except ReadFault String)} {path text : String}

/-- The answer on record for `path`; a path not on record is not found. -/
def recorded (answers : List (String × Except ReadFault String)) (path : String) :
    Except ReadFault String :=
  (answers.lookup path).getD (.error .notFound)

theorem mem_of_recorded (h : recorded answers path = .ok text) :
    text ∈ answers.filterMap (fun a => a.2.toOption) := by
  induction answers with
  | nil => simp [recorded] at h
  | cons a rest ih =>
      obtain ⟨p, r⟩ := a
      by_cases hp : path = p
      · subst hp
        simp only [recorded, List.lookup_cons_self, Option.getD_some] at h
        simp [h, Except.toOption]
      · have hb : (path == p) = false := by simpa using hp
        have := ih (by simpa [recorded, List.lookup_cons, hb] using h)
        exact List.mem_filterMap.2 <| by
          obtain ⟨b, hb, he⟩ := List.mem_filterMap.1 this
          exact ⟨b, List.mem_cons_of_mem _ hb, he⟩

/-- The store of the answers on record. -/
def ofAnswers (answers : List (String × Except ReadFault String)) : FileStore where
  read := recorded answers
  texts := answers.filterMap fun a => a.2.toOption
  mem_texts := mem_of_recorded

end FileStore

end ProtocInvocation
