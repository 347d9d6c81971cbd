import GosuForge.Console.Dialogue
import GosuForge.Model.Basic

/-!
# Selecting what to generate and where

`Dialogue.selectElement` offers the named packages and declarations of a model, and
`Dialogue.selectFolder` asks for a folder and makes it if it is not there.
-/

namespace GosuForge.Dialogue

def cancelChoice : String := "c"

/-- Numbers from one on. -/
def choiceNumbers (n : Nat) : List String := (List.range n).map fun i => toString (i + 1)

/-- The table of the elements to choose from, with their numbers. -/
def candidateTable (m : Model) (candidates : List ElementId) : Except Fault (List Column) := do
  let names ← candidates.mapM m.qualifiedName
  .ok [⟨"#", choiceNumbers candidates.length⟩, ⟨"Element", names⟩,
    ⟨"Kind", candidates.map fun id => (m.get id).kindWord⟩]

def selectElement (m : Model) (root : ElementId) : Dialogue ElementId := do
  let candidates ← ofExcept (m.generatable root)
  if candidates.isEmpty then
    print "Model contains no named elements"
    throw (.cancelled .noElement)
  else
    let columns ← ofExcept (candidateTable m candidates)
    printTable columns
    let choice ← orDismiss (askChoice "Select element (c to cancel)"
      (choiceNumbers candidates.length ++ [cancelChoice]) "1")
    if choice = cancelChoice then throw (.cancelled .noElement)
    else
      match candidates[(choiceNumbers candidates.length).idxOf choice]? with
      | some id => pure id
      | none => throw (.cancelled .noElement)

/-- A path whose first name begins with a tilde begins at a home directory. -/
def expandHome (path : Path) : Dialogue Path := do
  let console ← get
  match path.anchor, path.parts with
  | .relative, first :: rest =>
    if Text.startsWith "~" first then
      match console.home with
      | some home =>
        if first = "~" then pure ⟨home.anchor, home.parts ++ rest⟩ else throw .homeUnknown
      | none => throw .homeUnknown
    else pure path
  | _, _ => pure path

/-- A folder must be a text. -/
def folderText (answer : Value) : Dialogue String :=
  match answer with
  | .str s => pure (Text.trim s)
  | _ => throw .noSuchMember

def makeFolder (path : Path) : Dialogue Unit := do
  if Disk.hasNul path then throw .badValue
  else
    let before ← disk
    let (outcome, after) := before.makeDirectories path path.parts.length
    setDisk after
    ofExcept (outcome.mapError .storage)

def selectFolder (default : Value) : Dialogue Path := do
  let answer ← orDismiss (askText "Select a folder where generated codes to be located"
    (default.orElse (.str "")))
  let folder ← folderText answer
  if folder = "" then throw (.cancelled .noFolder)
  else
    let path ← expandHome (Path.ofString folder)
    let disk ← disk
    let isThere ← ofExcept (disk.isDirectory? path)
    if isThere then pure path
    else
      let wanted ← askYes ("Folder [cyan]" ++ path.toString
        ++ "[/cyan] does not exist. Create it?") (.bool true)
      if wanted.truthy then
        makeFolder path
        pure path
      else throw (.cancelled .noFolder)

end GosuForge.Dialogue
