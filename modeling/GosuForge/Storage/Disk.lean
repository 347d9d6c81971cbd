import GosuForge.Storage.Basic

/-!
# Destinations on disk

A `Disk` is a tree of directories and text files without links, and a working directory in it. Its
operations follow a path name by name from the working directory or the root and answer as a POSIX
system does: a name of more than 255 bytes is refused where it is looked up, a path of 4096 bytes or
more at once, and a path with a NUL is no path.
-/

namespace GosuForge

inductive DiskNode
  | directory
  | file (text : String)
  deriving DecidableEq, Repr

/-- A place in the tree: the names from the root down. -/
abbrev Place := List String

structure Disk where
  nodes : List (Place × DiskNode)
  working : Place
  deriving DecidableEq, Repr

namespace Disk

/-- An empty working directory below the root. -/
def empty : Disk := ⟨[([], .directory), (["work"], .directory)], ["work"]⟩

def node? (d : Disk) (place : Place) : Option DiskNode := d.nodes.lookup place

def put (place : Place) (node : DiskNode) :
    List (Place × DiskNode) → List (Place × DiskNode)
  | [] => [(place, node)]
  | (p, old) :: rest => if p = place then (p, node) :: rest else (p, old) :: put place node rest

def set (d : Disk) (place : Place) (node : DiskNode) : Disk :=
  { d with nodes := put place node d.nodes }

def nameLimit : Nat := 255

def pathLimit : Nat := 4096

/-- Follows directory names from a place that is a directory. -/
def descend (d : Disk) (place : Place) : List String → Except StorageCause Place
  | [] => .ok place
  | ".." :: rest => descend d place.dropLast rest
  | name :: rest =>
    if name.utf8ByteSize > nameLimit then .error .nameTooLong
    else
      match d.node? (place ++ [name]) with
      | some .directory => descend d (place ++ [name]) rest
      | some (.file _) => .error .notDirectory
      | none => .error .missing

def start (d : Disk) (path : Path) : Place := if path.anchor = .relative then d.working else []

/-- What the last name of a path stands for. -/
inductive Target
  /-- A directory that is named by where it is and cannot be made. -/
  | standing (place : Place)
  | entry (place : Place) (node : Option DiskNode)

def locate (d : Disk) (path : Path) : Except StorageCause Target :=
  if path.toString.utf8ByteSize ≥ pathLimit then .error .nameTooLong
  else do
    let parent ← d.descend (d.start path) path.parts.dropLast
    match path.parts.getLast? with
    | none => .ok (.standing parent)
    | some ".." => .ok (.standing parent.dropLast)
    | some name =>
      if name.utf8ByteSize > nameLimit then .error .nameTooLong
      else .ok (.entry (parent ++ [name]) (d.node? (parent ++ [name])))

def hasNul (path : Path) : Bool := path.parts.any fun part => part.toList.contains '\x00'

/-- The node at a path, `none` if there is none or a file stands in its way. -/
def find (d : Disk) (path : Path) : Except Fault (Option DiskNode) :=
  if hasNul path then .ok none
  else
    match d.locate path with
    | .ok (.standing _) => .ok (some .directory)
    | .ok (.entry _ node) => .ok node
    | .error .missing => .ok none
    | .error .notDirectory => .ok none
    | .error cause => .error (.storage (cause.on path))

def exists? (d : Disk) (path : Path) : Except Fault Bool := (d.find path).map Option.isSome

def isDirectory? (d : Disk) (path : Path) : Except Fault Bool :=
  (d.find path).map (· == some .directory)

/-- Makes a directory; one that is there already will do. -/
def makeDirectory (path : Path) (d : Disk) : Except StorageFault Disk :=
  match d.locate path with
  | .error cause => .error (cause.on path)
  | .ok (.standing _) => .ok d
  | .ok (.entry place node) =>
    match node with
    | none => .ok (d.set place .directory)
    | some .directory => .ok d
    | some (.file _) => .error (StorageCause.alreadyThere.on path)

/-- The outcome of making a directory, and the disk after it. -/
def tryDirectory (path : Path) (d : Disk) : Except StorageFault Unit × Disk :=
  match d.makeDirectory path with
  | .ok d => (.ok (), d)
  | .error fault => (.error fault, d)

/-- Makes a directory and those above it that are missing; those stay if one below them cannot be
made. `fuel` is the number of names. -/
def makeDirectories (path : Path) (d : Disk) : Nat → Except StorageFault Unit × Disk
  | 0 => d.tryDirectory path
  | fuel + 1 =>
    match d.tryDirectory path with
    | (.error fault, d) =>
      if fault.cause = .missing && path.parent ≠ path then
        match makeDirectories path.parent d fuel with
        | (.ok (), d) => d.tryDirectory path
        | failed => failed
      else (.error fault, d)
    | made => made

def writeText (path : Path) (text : String) (d : Disk) : Except StorageFault Disk :=
  match d.locate path with
  | .error cause => .error (cause.on path)
  | .ok (.standing _) => .error (StorageCause.isDirectory.on path)
  | .ok (.entry place node) =>
    match node with
    | some .directory => .error (StorageCause.isDirectory.on path)
    | _ => .ok (d.set place (.file text))

def readText (path : Path) (d : Disk) : Except StorageFault String :=
  match d.locate path with
  | .error cause => .error (cause.on path)
  | .ok (.standing _) => .error (StorageCause.isDirectory.on path)
  | .ok (.entry _ node) =>
    match node with
    | none => .error (StorageCause.missing.on path)
    | some .directory => .error (StorageCause.isDirectory.on path)
    | some (.file text) => .ok text

/-- The outcome of an operation at a destination, and the disk after it. -/
def perform (d : Disk) (path : Path) (operation : StorageOperation)
    (outcome : Except StorageFault Disk) : Except Fault Unit × Disk :=
  if hasNul path then (.error .badValue, d)
  else
    match outcome with
    | .ok d => (.ok (), d)
    | .error fault => (.error (.destination path operation fault), d)

def storage : Storage Disk where
  createDirectory path d := perform d path .createDirectory (d.makeDirectory path)
  writeText path text d := perform d path .writeText (d.writeText path text)

end Disk

end GosuForge
