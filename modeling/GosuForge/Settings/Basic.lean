import GosuForge.Value.Record

/-!
# Settings

The settings of a generation run, as they were given: nothing is checked before a generator takes
them. A setting has one name, and some have further spellings, under which preference panels and
callers know them; whatever is no setting by name is looked up among the custom ones.
-/

namespace GosuForge

structure Settings where
  outputDir : Value
  indentSize : Value
  useTabs : Value
  lineEnding : Value
  docComments : Value
  author : Value
  custom : Value
  deriving Repr

inductive SettingsField
  | outputDir
  | indentSize
  | useTabs
  | lineEnding
  | docComments
  | author
  | custom
  deriving DecidableEq, Repr

namespace SettingsField

def all : List SettingsField :=
  [outputDir, indentSize, useTabs, lineEnding, docComments, author, custom]

def name : SettingsField → String
  | outputDir => "output_dir"
  | indentSize => "indent_size"
  | useTabs => "use_tabs"
  | lineEnding => "line_ending"
  | docComments => "doc_comments"
  | author => "author"
  | custom => "custom"

def ofName? (key : String) : Option SettingsField := all.find? (·.name == key)

/-- Further spellings of settings. -/
def spellings : List (String × SettingsField) :=
  [("gosu.gen.gosuDoc", docComments), ("gosu.gen.useTab", useTabs),
   ("gosu.gen.indentSpaces", indentSize), ("generateDocComments", docComments),
   ("useTabIndentation", useTabs), ("indentWidth", indentSize)]

/-- The name of the setting that `key` spells, or `key` itself. -/
def canonical (key : String) : String := ((spellings.lookup key).map name).getD key

end SettingsField

namespace Settings

def default : Settings where
  outputDir := .null
  indentSize := .int 4
  useTabs := .bool false
  lineEnding := .str "\n"
  docComments := .bool true
  author := .null
  custom := .obj []

def get (s : Settings) : SettingsField → Value
  | .outputDir => s.outputDir
  | .indentSize => s.indentSize
  | .useTabs => s.useTabs
  | .lineEnding => s.lineEnding
  | .docComments => s.docComments
  | .author => s.author
  | .custom => s.custom

def set (s : Settings) (v : Value) : SettingsField → Settings
  | .outputDir => { s with outputDir := v }
  | .indentSize => { s with indentSize := v }
  | .useTabs => { s with useTabs := v }
  | .lineEnding => { s with lineEnding := v }
  | .docComments => { s with docComments := v }
  | .author => { s with author := v }
  | .custom => { s with custom := v }

/-- Settings by name on top of `s`; a name that is none is refused. -/
def withEntries (s : Settings) : Entries → Except Fault Settings
  | [] => .ok s
  | (key, v) :: rest =>
    match SettingsField.ofName? key with
    | some field => (s.set v field).withEntries rest
    | none => .error .wrongType

def ofEntries (entries : Entries) : Except Fault Settings := default.withEntries entries

/-- Custom settings can be looked up only in an object. -/
def customEntries (s : Settings) : Except Fault Entries :=
  match s.custom with
  | .obj entries => .ok entries
  | _ => .error .noSuchMember

/-- The setting that `key` spells, else the custom setting `key`, else `fallback`. A key that is no
text names no setting. -/
def getOption (s : Settings) (key fallback : Value) : Except Fault Value :=
  match key with
  | .str key =>
    let key := SettingsField.canonical key
    match SettingsField.ofName? key with
    | some field => .ok (s.get field)
    | none => do
      let entries ← s.customEntries
      .ok (entries.getD key fallback)
  | key =>
    if key.isKey then s.customEntries.map fun _ => fallback else .error .wrongType

/-- There is no room for a text of so many spaces. -/
def roomLimit : Int := 68719476736

/-- A text of spaces, none for a negative number, which must fit into 64 bits with its sign. -/
def spaces (n : Int) : Except Fault String :=
  if n < Int64.minValue.toInt || Int64.maxValue.toInt < n then .error .tooLarge
  else if roomLimit ≤ n then .error .outOfMemory
  else .ok (String.ofList (List.replicate n.toNat ' '))

/-- The text of one level of indentation. -/
def indentText (s : Settings) : Except Fault String :=
  if s.useTabs.truthy then .ok "\t"
  else
    match s.indentSize.wholeNumber? with
    | some n => spaces n
    | none => .error .wrongType

/-- What is wrong with settings for a language, one sentence for each setting. -/
def warnings (s : Settings) (language : Value) : Except Fault (List String) := do
  let indentSize :=
    match s.indentSize.wholeNumber? with
    | some n => if n < 0 then ["Invalid indent_size: " ++ s.indentSize.display] else []
    | none => ["Invalid indent_size: " ++ s.indentSize.display]
  let lineEnding ←
    match s.lineEnding with
    | .str "\n" => .ok []
    | .str "\r\n" => .ok []
    | v => if v.isKey then .ok ["Invalid line_ending: " ++ v.inner] else .error .wrongType
  match language with
  | .str "gosu" => do
    let entries ← s.customEntries
    let extension (key : String) : List String :=
      let v := entries.getD key .null
      if v.isNull || Text.startsWith "." v.display then []
      else ["Invalid " ++ key ++ ": " ++ v.display]
    let uses :=
      match entries.getD "uses" (.arr []) with
      | .arr _ => []
      | v => ["Invalid uses: " ++ v.display]
    .ok (indentSize ++ lineEnding ++ extension "source_extension"
      ++ extension "enhancement_extension" ++ uses)
  | _ => .ok (indentSize ++ lineEnding)

end Settings

end GosuForge
