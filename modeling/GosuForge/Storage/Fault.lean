import GosuForge.Path
import GosuForge.Text.Quoted

/-!
# Failures of file operations

`StorageFault` says why a directory or file could not be made or read, with the text of the system
that refused it. The texts of an operating system carry its error number and the path.
-/

namespace GosuForge

inductive StorageCause
  | missing
  | alreadyThere
  | notDirectory
  | isDirectory
  | nameTooLong
  | denied
  | other
  deriving DecidableEq, Repr

structure StorageFault where
  cause : StorageCause
  text : String
  deriving DecidableEq, Repr

/-- What was tried at a destination. -/
inductive StorageOperation
  | createDirectory
  | writeText
  /-- Another operation by its word, in which underscores stand for spaces. -/
  | other (word : String)
  deriving DecidableEq, Repr

namespace StorageOperation

def phrase : StorageOperation → String
  | createDirectory => "create directory"
  | writeText => "write file"
  | other word => String.ofList (word.toList.map fun c => if c = '_' then ' ' else c)

end StorageOperation

namespace StorageCause

def number : StorageCause → Nat
  | missing => 2
  | other => 5
  | denied => 13
  | alreadyThere => 17
  | notDirectory => 20
  | isDirectory => 21
  | nameTooLong => 36

def phrase : StorageCause → String
  | missing => "No such file or directory"
  | other => "Input/output error"
  | denied => "Permission denied"
  | alreadyThere => "File exists"
  | notDirectory => "Not a directory"
  | isDirectory => "Is a directory"
  | nameTooLong => "File name too long"

/-- The refusal of an operating system. -/
def on (cause : StorageCause) (path : Path) : StorageFault :=
  ⟨cause, "[Errno " ++ toString cause.number ++ "] " ++ cause.phrase ++ ": "
    ++ Text.quoted path.toString⟩

end StorageCause

end GosuForge
