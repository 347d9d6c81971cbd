import GosuForge.Console.Program

/-!
# The command line

`main` runs the program on a picture of the disk that holds what the arguments and the answers name.
While an answer is missing it reads one more line and runs again; at the end it makes the changes to
the picture real.
-/

namespace GosuForge.CommandLine

/-- The text of a place as an absolute path. -/
def pathText (place : Place) : String := "/" ++ Text.join "/" place

/-- The place that a path leads to. -/
def placeOf (working : Place) (path : Path) : Place :=
  path.parts.foldl (fun place part => if part = ".." then place.dropLast else place ++ [part])
    (if path.anchor = .relative then working else [])

/-- What stands at a place; a file that holds no text counts as empty. -/
def nodeAt? (place : Place) : IO (Option DiskNode) := do
  let path := System.mkFilePath [pathText place]
  if ← path.isDir then pure (some .directory)
  else if ← path.pathExists then
    let text ← try IO.FS.readFile path catch _ => pure ""
    pure (some (.file text))
  else pure none

/-- A place and all below it. -/
partial def treeAt (place : Place) : IO (List (Place × DiskNode)) := do
  match ← nodeAt? place with
  | none => pure []
  | some (.file text) => pure [(place, .file text)]
  | some .directory =>
    let entries ← (System.mkFilePath [pathText place]).readDir
    let below ← entries.toList.mapM fun entry => treeAt (place ++ [entry.fileName])
    pure ((place, .directory) :: below.flatten)

/-- The places above a place, from the root down. -/
def placesAbove (place : Place) : List Place :=
  (List.range place.length).map fun n => place.take n

/-- The disk as far as paths show it: what they lead to, with all above and all below. -/
def picture (working : Place) (paths : List String) : IO Disk := do
  let places := (paths.map fun path => placeOf working (Path.ofString path)).eraseDups
  let above ← (working :: places).flatMapM fun place => (placesAbove place).filterMapM fun p => do
    let node ← nodeAt? p
    pure (node.map fun node => (p, node))
  let named ← places.flatMapM treeAt
  pure ⟨above ++ (working, .directory) :: named, working⟩

/-- Makes what a run has put on the disk real. -/
def commit (before after : Disk) : IO Unit :=
  after.nodes.forM fun (place, node) => do
    if before.node? place ≠ some node then
      let path := System.mkFilePath [pathText place]
      match node with
      | .directory => IO.FS.createDirAll path
      | .file text => IO.FS.writeFile path text

/-- The exit code of an outcome, with what is said of it on the error stream. -/
def conclude : EStateM.Result Fault Console Program.Ending → IO UInt32
  | .ok (.returned code) _ => pure code.toUInt32
  | .ok (.stopped reason) _ => do
    let say := if reason = .information then IO.println else IO.eprintln
    ((Command.programName ++ " " ++ Command.version) :: Command.usage).forM say
    pure reason.code.toUInt32
  | .error fault _ => do
    IO.eprintln fault.message
    pure 1

/-- Runs the program with the answers so far, of whose lines `shown` are on the console already. -/
partial def converse (args answers : List String) (shown : Nat) : IO UInt32 := do
  let working := (← IO.currentDir).components.filter (· ≠ "")
  let home := (← IO.getEnv "HOME").map Path.ofString
  let first ← picture working (Command.defaultConfig :: args)
  let offered := (Program.offeredFolder? args first).toList
  let disk ← picture working (Command.defaultConfig :: args ++ answers ++ offered)
  let outcome := Program.run false args { Console.new answers disk with home }
  let console := match outcome with
    | .ok _ console => console
    | .error _ console => console
  let due := console.starvedAt.getD console.printed.length
  ((console.printed.take due).drop shown).forM IO.println
  let line ← if console.starvedAt.isSome then (← IO.getStdin).getLine else pure ""
  if line = "" then
    (console.printed.drop due).forM IO.println
    commit disk console.disk
    conclude outcome
  else
    let answer := String.ofList (line.toList.filter fun c => c ≠ '\n' && c ≠ '\r')
    converse args (answers ++ [answer]) due

end GosuForge.CommandLine

def main (args : List String) : IO UInt32 := GosuForge.CommandLine.converse args [] 0
