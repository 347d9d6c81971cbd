import GosuForge.Storage.Basic

/-!
# Destinations in memory

A `Memory` holds directories in the order in which they were made and files in the order in which
they were first written. A path is never both. What a file holds is text, or data that may stand for
text; `Memory.storage` writes the text itself.
-/

namespace GosuForge

structure Memory (α : Type) where
  directories : List Path
  files : List (Path × α)
  deriving DecidableEq, Repr

namespace Memory

variable {α : Type}

def empty : Memory α := ⟨[], []⟩

def hasFile (m : Memory α) (path : Path) : Bool := (m.files.lookup path).isSome

def content? (m : Memory α) (path : Path) : Option α := m.files.lookup path

/-- Gives the file its content, in its first place if it is there. -/
def putFile (path : Path) (content : α) : List (Path × α) → List (Path × α)
  | [] => [(path, content)]
  | (p, old) :: rest =>
    if p = path then (p, content) :: rest else (p, old) :: putFile path content rest

def createDirectory (path : Path) (m : Memory α) : Except Fault Unit × Memory α :=
  if m.hasFile path then
    let fault : StorageFault := ⟨.alreadyThere, "File exists: " ++ path.toString⟩
    (.error (.destination path .createDirectory fault), m)
  else if m.directories.contains path then (.ok (), m)
  else (.ok (), { m with directories := m.directories ++ [path] })

def write (path : Path) (content : α) (m : Memory α) : Except Fault Unit × Memory α :=
  if m.directories.contains path then
    let fault : StorageFault := ⟨.isDirectory, "Is a directory: " ++ path.toString⟩
    (.error (.destination path .writeText fault), m)
  else (.ok (), { m with files := putFile path content m.files })

/-- A memory whose files hold what stands for the texts that are written. -/
def storageWith (standFor : String → α) : Storage (Memory α) :=
  ⟨createDirectory, fun path text => write path (standFor text)⟩

def storage : Storage (Memory String) := storageWith id

end Memory

end GosuForge
