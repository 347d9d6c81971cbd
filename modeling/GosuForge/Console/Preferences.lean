import GosuForge.Console.Dialogue
import GosuForge.Gosu.Settings

/-!
# Editing preferences

`Dialogue.configure` asks for the preferences of the panel and the author, with the settings of a
file or the defaults as they stand, and saves them to the file if that is wanted.
-/

namespace GosuForge.Dialogue

def currentSettings (path : Path) : Dialogue Settings := do
  let disk ← disk
  let isThere ← ofExcept (disk.exists? path)
  ofExcept (Settings.forLanguage (.str "gosu") .null (if isThere then some path else none) disk)

/-- The table of the preferences with their values. -/
def preferenceTable (s : Settings) (panel : List Preference) : Except Fault (List Column) := do
  let values ← panel.mapM fun p => s.getOption (.str p.key) .null
  .ok [⟨"Preference", panel.map (·.text)⟩, ⟨"Key", panel.map (·.key)⟩,
    ⟨"Value", values.map Value.display⟩]

def askPreference (s : Settings) (p : Preference) : Dialogue (SettingsField × Value) := do
  let current ← ofExcept (s.getOption (.str p.key) .null)
  let v ← match p.kind with
    | .check => askYes p.description current
    | .number => askNumber p.description current
  pure (p.field, v)

/-- An author must be a text; an empty one is none. -/
def askAuthor (s : Settings) : Dialogue Value := do
  let answer ← askText "Author (blank for none)" (s.author.orElse (.str ""))
  match answer with
  | .str author =>
    let author := Text.trim author
    pure (if author = "" then .null else .str author)
  | _ => throw .noSuchMember

def saveSettings (s : Settings) (path : Path) : Dialogue Unit := do
  let disk ← disk
  let disk ← ofExcept (s.save path disk)
  setDisk disk

def configure (path : Path) : Dialogue Settings := do
  let settings ← currentSettings path
  let columns ← ofExcept (preferenceTable settings Preference.panel)
  printTable columns
  let values ← Preference.panel.mapM (askPreference settings)
  let author ← askAuthor settings
  let edited := values.foldl (fun (s : Settings) (field, v) => s.set v field) settings
  let edited := edited.set author .author
  let warnings ← ofExcept (edited.warnings (.str "gosu"))
  warnings.forM fun warning => print ("  [yellow]•[/yellow] " ++ warning)
  let wanted ← askYes ("Save preferences to [cyan]" ++ path.toString ++ "[/cyan]?") (.bool true)
  if wanted.truthy then
    saveSettings edited path
    print ("[green]✓[/green] Preferences saved to [cyan]" ++ path.toString ++ "[/cyan]")
    pure edited
  else throw (.cancelled .notSaved)

end GosuForge.Dialogue
