import GosuForge.Settings.File

/-!
# Layers of settings

Settings are put together from the defaults of a language, a settings file and overrides, each on
top of the one before. `resolve` names what the layers give, and whatever is no setting by name
becomes a custom setting, on top of the custom settings given as such.
-/

namespace GosuForge

namespace Settings

/-- The custom settings of Gosu where nothing else is given. -/
def gosuCustom : Entries :=
  [("source_extension", .str ".gs"), ("enhancement_extension", .str ".gsx"),
   ("uses", .arr [.str "java.util.*"]), ("stub_statement", .str "// TODO implement here")]

/-- Defaults by language. -/
def languageDefaults : List (String × Entries) :=
  [("gosu", [("indent_size", .int 4), ("use_tabs", .bool false), ("doc_comments", .bool true),
    ("custom", .obj gosuCustom)])]

def languages : List String := languageDefaults.map (·.1)

/-- The lowest layer of a language; it always has custom settings. Only a text names a language. -/
def base (language : Value) : Except Fault Entries :=
  match language with
  | .str s => .ok (Entries.putNew "custom" (.obj []) ((languageDefaults.lookup (Text.lower s)).getD []))
  | _ => .error .noSuchMember

/-- One entry on top of a layer; two objects of custom settings are united. -/
def mergeEntry (layer : Entries) (key : String) (v : Value) : Except Fault Entries :=
  let key := SettingsField.canonical key
  match key, v with
  | "custom", .obj custom =>
    match layer.getD "custom" (.obj []) with
    | .obj below => .ok (layer.put "custom" (.obj (Entries.update below custom)))
    | _ => .error .noSuchMember
  | _, _ => .ok (layer.put key v)

def merge (layer : Entries) : Entries → Except Fault Entries
  | [] => .ok layer
  | (key, v) :: rest => do
    let layer ← mergeEntry layer key v
    merge layer rest

/-- The settings that a finished layer stands for. -/
def resolve (layer : Entries) : Except Fault Settings := do
  let isNamed (entry : String × Value) : Bool := (SettingsField.ofName? entry.1).isSome
  let named : Entries := layer.filter isNamed
  let further : Entries := layer.filter fun entry => !isNamed entry
  if further.isEmpty then ofEntries named
  else do
    let custom ← (named.getD "custom" (.obj [])).asEntries
    ofEntries (named.put "custom" (.obj (custom.update further)))

/-- Overrides are an object, or nothing that counts. -/
def overrideEntries (overrides : Value) : Except Fault Entries :=
  if overrides.truthy then
    match overrides with
    | .obj entries => .ok entries
    | _ => .error .noSuchMember
  else .ok []

/-- The settings for a language with the layers of a file and of overrides. -/
def combine (language overrides : Value) (file : Entries) : Except Fault Settings := do
  let layer ← base language
  let layer ← merge layer file
  let entries ← overrideEntries overrides
  let layer ← merge layer entries
  resolve layer

/-- The settings for a language, with a file if one is named. -/
def forLanguage (language overrides : Value) (file : Option Path) (disk : Disk) :
    Except Fault Settings :=
  match file with
  | none => combine language overrides []
  | some path => do
    let _ ← base language
    let entries ← load path disk
    combine language overrides entries

end Settings

end GosuForge
