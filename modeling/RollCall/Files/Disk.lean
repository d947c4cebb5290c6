import RollCall.Files.Path

/-!
# RollCall.Files.Disk — what can be read

A disk lists directories and reads files. It is given by its two operations in any monad, so the
same program reads the files of the machine and the files of a tree held in memory.
-/

namespace RollCall

/-- Why something cannot be read. -/
inductive ReadFault where
  /-- Nothing has that path. -/
  | notFound
  /-- A file stands where a directory is needed. -/
  | notADirectory
  /-- A directory stands where a file is needed. -/
  | isADirectory
  /-- A path or a name in it is longer than any can be. -/
  | tooLong
  /-- The contents of a file are no text. -/
  | notText
  /-- Any other reason, in words. -/
  | other (reason : String)
deriving DecidableEq, Repr

/-- The wording of a fault. -/
def ReadFault.message : ReadFault → String
  | .notFound => "No such file or directory (os error 2)"
  | .notADirectory => "Not a directory (os error 20)"
  | .isADirectory => "Is a directory (os error 21)"
  | .tooLong => "File name too long (os error 36)"
  | .notText => "stream did not contain valid UTF-8"
  | .other reason => reason

/-- A name in a directory. -/
structure DirectoryEntry where
  name : String
  isFile : Bool
deriving DecidableEq, Repr

/-- The two ways of reading. -/
structure Disk (m : Type → Type) where
  /-- The entries of a directory, in no particular order. -/
  list : String → m (Except ReadFault (List DirectoryEntry))
  /-- The contents of a file. -/
  read : String → m (Except ReadFault ByteArray)

/-- Contents as text. -/
def textOf (contents : ByteArray) : Except ReadFault String :=
  match String.fromUTF8? contents with
  | some text => .ok text
  | none => .error .notText

end RollCall
