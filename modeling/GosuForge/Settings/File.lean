import GosuForge.Json.File
import GosuForge.Settings.Basic
import GosuForge.Storage.Disk
import GosuForge.Text.Case

/-!
# Settings files

A settings file is a JSON object. Saving writes every setting but the custom ones under its name and
then the custom settings beside them, which take the place of a setting of the same name.
-/

namespace GosuForge

namespace Settings

/-- The entries of a settings file. -/
def load (path : Path) (disk : Disk) : Except Fault Entries := do
  let found ← disk.exists? path
  if !found then .error (.settings (.missing path))
  else if Text.lower path.suffix != ".json" then .error (.settings (.notJson path))
  else
    match disk.readText path with
    | .error fault => .error (.settings (.unreadable path fault))
    | .ok raw => do
      match ← Json.ofFile (fun detail => .settings (.invalidJson path detail)) raw with
      | .obj entries => .ok entries
      | _ => .error (.settings (.notObject path))

/-- The entries that stand for settings in a file. Custom settings whose keys differ stay apart even
if the keys have one text. -/
def toEntries (s : Settings) : Except Fault Entries := do
  let named := (SettingsField.all.filter (· ≠ .custom)).map fun field =>
    (Value.str field.name, s.get field)
  let pairs ← s.custom.readOnto named
  .ok (pairs.map fun (key, v) => (key.keyText, v))

def save (s : Settings) (path : Path) (disk : Disk) : Except Fault Disk := do
  let entries ← s.toEntries
  if Disk.hasNul path then .error .badValue
  else
    match disk.writeText path (Json.indented (.obj entries)) with
    | .error fault => .error (.settings (.unwritable path fault))
    | .ok disk => .ok disk

end Settings

end GosuForge
