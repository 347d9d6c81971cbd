import GosuForge.Storage.Disk

/-!
# Contents of a disk

`Disk.install` puts directories and files in place with all the directories above them, and
`Disk.listing` shows what stands below the working directory in the order of the paths.
-/

namespace GosuForge

/-- Directories and files by relative path, both in ascending order. -/
structure Listing where
  directories : List String
  files : List (String × String)
  deriving DecidableEq, Repr

namespace Disk

/-- The disk with a directory and all above it, as far as nothing stands in the way. -/
def withDirectory (d : Disk) (path : Path) : Disk := (d.makeDirectories path path.parts.length).2

/-- The disk with a file and all directories above it, where nothing stands in the way. -/
def withFile (d : Disk) (path : Path) (text : String) : Disk :=
  let d := d.withDirectory path.parent
  match d.writeText path text with
  | .ok d => d
  | .error _ => d

def install (d : Disk) (directories : List String) (files : List (String × String)) : Disk :=
  let d := (directories.map Path.ofString).foldl withDirectory d
  files.foldl (fun d (path, text) => d.withFile (Path.ofString path) text) d

/-- What stands below the working directory, by relative path. -/
def below (d : Disk) : List (String × DiskNode) :=
  let found := d.nodes.filterMap fun (place, node) =>
    if d.working.isPrefixOf place && place != d.working then
      some (Text.join "/" (place.drop d.working.length), node)
    else none
  found.mergeSort fun a b => !(b.1 < a.1)

def listing (d : Disk) : Listing where
  directories := d.below.filterMap fun (path, node) =>
    if node = .directory then some path else none
  files := d.below.filterMap fun (path, node) =>
    match node with
    | .file text => some (path, text)
    | .directory => none

end Disk

end GosuForge
