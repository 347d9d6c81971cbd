import GosuForge.Gosu.SourceFile
import GosuForge.Storage.Disk

/-!
# Folders of templates

The folders that a template engine may look into: none, the one that comes with the library, or a
directory of a disk. A name never leads out of its directory; an empty one stands for itself.
-/

namespace GosuForge.TemplateFolder

def absent : String → Option String := fun _ => none

/-- The names that lead from a folder to a template. -/
def namesTo? (name : String) : Option (List String) :=
  let parts := Text.split '/' name
  if parts.contains ".." then none else some (parts.filter Path.isName)

def shipped (name : String) : Option String :=
  if namesTo? name = some [SourceFile.templateName] then some SourceFile.templateText else none

def ofDirectory (disk : Disk) (directory : Path) (name : String) : Option String := do
  let names ← namesTo? name
  (disk.readText ⟨directory.anchor, directory.parts ++ names⟩).toOption

end GosuForge.TemplateFolder
