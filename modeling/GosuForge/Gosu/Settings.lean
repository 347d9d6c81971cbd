import GosuForge.Settings.Layers

/-!
# Settings of the Gosu generator

`GosuSettings.accept` is what a generator does with settings: it fills in the custom settings of
Gosu and refuses extensions without a leading point, an indentation that is no count and imports
that are no list. General settings must not be nested too deeply. The settings it accepts are kept
beside the values that were read from them.
-/

namespace GosuForge

structure GosuSettings where
  general : Settings
  custom : Entries
  sourceExtension : String
  enhancementExtension : String
  indentSize : Nat
  uses : List Value
  stub : Value
  deriving Repr

namespace GosuSettings

/-- An extension is a text that begins with a point. -/
def readExtension (custom : Entries) (key : String) : Except Fault String :=
  match custom.getD key .null with
  | .str s => if Text.startsWith "." s then .ok s else .error (.setting key (.str s))
  | v => .error (.setting key v)

/-- A truth value is no count here. -/
def readIndent (v : Value) : Except Fault Nat :=
  match v with
  | .int n => if n < 0 then .error (.setting "indent_size" v) else .ok n.toNat
  | _ => .error (.setting "indent_size" v)

def readUses (custom : Entries) : Except Fault (List Value) :=
  match custom.getD "uses" .null with
  | .arr items => .ok items
  | v => .error (.setting "uses" v)

/-- Custom settings, the Gosu defaults filled in; none at all count as an empty object. -/
def fillCustom (custom : Value) : Except Fault Entries :=
  if custom.truthy then
    match custom with
    | .obj entries =>
      .ok (Settings.gosuCustom.foldl (fun filled (key, v) => filled.putNew key v) entries)
    | _ => .error .noSuchMember
  else .ok Settings.gosuCustom

/-- Settings as they are given for Gosu, with their custom settings as an object or none. -/
def fill (s : Settings) : Except Fault GosuSettings := do
  let custom ← fillCustom s.custom
  let sourceExtension ← readExtension custom "source_extension"
  let enhancementExtension ← readExtension custom "enhancement_extension"
  let indentSize ← readIndent s.indentSize
  let uses ← readUses custom
  .ok { general := { s with custom := .obj custom }
        custom, sourceExtension, enhancementExtension, indentSize, uses
        stub := custom.getD "stub_statement" .null }

/-- How deep the general settings may be nested that a generator takes over. This is no law of the
settings: it is what a copy with two calls a level finds left of a thousand calls with few others under
way, and a caller that is deeper in calls itself has less. The bound on calls is modelled here and, as
`Json.maxDepth`, for JSON. Loading a model from a nested document and walking its elements are not
bounded. -/
def maxNesting : Nat := 494

/-- Takes general settings over; their custom settings are read as an object first. -/
def accept (s : Settings) : Except Fault GosuSettings :=
  if SettingsField.all.any fun field => maxNesting < (s.get field).nesting then
    .error .nestingTooDeep
  else do
    let custom ← s.custom.asEntries
    fill { s with custom := .obj custom }

/-- The text of one level of indentation. -/
def indentText (g : GosuSettings) : Except Fault String :=
  if g.general.useTabs.truthy then .ok "\t" else Settings.spaces g.indentSize

end GosuSettings

/-- What a preference is edited with. -/
inductive PreferenceKind
  | check
  | number
  deriving DecidableEq, Repr

/-- An entry of the preference panel: a setting under the key that the panel knows it by. -/
structure Preference where
  key : String
  text : String
  description : String
  kind : PreferenceKind
  standard : Value
  field : SettingsField
  deriving Repr

namespace Preference

def panel : List Preference :=
  [⟨"gosu.gen.gosuDoc", "GosuDoc", "Generate GosuDoc comments.", .check, .bool true, .docComments⟩,
   ⟨"gosu.gen.useTab", "Use Tab", "Use Tab for indentation instead of spaces.", .check,
    .bool false, .useTabs⟩,
   ⟨"gosu.gen.indentSpaces", "Indent Spaces", "Number of spaces for indentation.", .number,
    .int 4, .indentSize⟩]

/-- What the panel shows for each preference. -/
def values (s : Settings) : Except Fault Entries :=
  panel.mapM fun preference => do
    let v ← s.getOption (.str preference.key) .null
    .ok (preference.key, v)

end Preference

end GosuForge
