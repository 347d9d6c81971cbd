import GosuForge.Storage.Fault

/-!
# Defects of settings files

Why a settings file cannot be loaded or saved, and the sentence that says so.
-/

namespace GosuForge

inductive SettingsDefect
  | missing (path : Path)
  | notJson (path : Path)
  | invalidJson (path : Path) (detail : String)
  | unreadable (path : Path) (fault : StorageFault)
  | notObject (path : Path)
  | unwritable (path : Path) (fault : StorageFault)
  deriving Repr

namespace SettingsDefect

/-- The sentence for a defect, without what the JSON reader had to say. -/
def headline : SettingsDefect → String
  | missing path => "Configuration file not found: " ++ path.toString
  | notJson path => "Configuration file must be JSON: " ++ path.toString
  | invalidJson path _ => "Invalid JSON in configuration file " ++ path.toString
  | unreadable path fault =>
    "Failed to load configuration file " ++ path.toString ++ ": " ++ fault.text
  | notObject path => "Configuration file must contain a JSON object: " ++ path.toString
  | unwritable path fault =>
    "Failed to save configuration to " ++ path.toString ++ ": " ++ fault.text

def message : SettingsDefect → String
  | invalidJson path detail => (invalidJson path detail).headline ++ ": " ++ detail
  | d => d.headline

end SettingsDefect

end GosuForge
