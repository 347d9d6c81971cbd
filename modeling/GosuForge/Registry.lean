import GosuForge.Generation.Plan
import GosuForge.Gosu.Settings

/-!
# Languages and their generators

A registry knows kinds of generators by language and further names for the languages; letter case
does not matter. A name that is both a language and a further name is the language.

* `Registry.register` adds a kind of generator;
* `Registry.resolve` finds the language that a name stands for;
* `Registry.create` makes a generator from settings in one of several forms.
-/

namespace GosuForge

/-- A kind of generator; one without a language cannot be made. -/
structure GeneratorKind where
  name : String
  language? : Option String
  deriving DecidableEq, Repr

namespace GeneratorKind

def gosu : GeneratorKind := ⟨"GosuGenerator", some "gosu"⟩

def abstract : GeneratorKind := ⟨"CodeGenerator", none⟩

/-- Makes a generator with settings that it may refuse. -/
def make (kind : GeneratorKind) (settings : Settings) : Except Fault Generator :=
  match kind.language? with
  | none => .error .wrongType
  | some language => do
    let settings ← GosuSettings.accept settings
    .ok ⟨language, settings, some SourceFile.header⟩

end GeneratorKind

/-- The forms in which settings for a generator may be given. -/
inductive SettingsSource
  | standard
  | ready (settings : Settings)
  | file (path : Option Path)
  | overrides (entries : Entries)
  /-- Something of the named kind that is none of these. -/
  | unusable (kind : String)
  deriving Repr

namespace SettingsSource

/-- The form of settings in a value: a text is the path of a file, an object overrides. -/
def ofValue : Value → SettingsSource
  | .null => standard
  | .str s => file (if s = "" then none else some (Path.ofString s))
  | .obj entries => overrides entries
  | .bool _ => unusable "bool"
  | .int _ => unusable "int"
  | .float _ => unusable "float"
  | .arr _ => unusable "list"
  | .kept _ => unusable "object"

def settings (source : SettingsSource) (language : String) (disk : Disk) : Except Fault Settings :=
  let language := Value.str language
  match source with
  | standard => Settings.forLanguage language .null none disk
  | ready settings => .ok settings
  | file path => Settings.forLanguage language .null path disk
  | overrides entries => Settings.forLanguage language (.obj entries) none disk
  | unusable kind => .error (.settingsKind kind)

end SettingsSource

/-- What is told of a language. -/
structure LanguageInfo where
  language : String
  kind : String
  fileExtension : String
  aliases : List String
  deriving DecidableEq, Repr

structure Registry where
  kinds : List (String × GeneratorKind)
  aliases : List (String × String)
  deriving DecidableEq, Repr

namespace Registry

def empty : Registry := ⟨[], []⟩

/-- Gives `key` the value `v`, in its place if it is there. -/
def put {α : Type} (key : String) (v : α) : List (String × α) → List (String × α)
  | [] => [(key, v)]
  | (k, w) :: rest => if k = key then (k, v) :: rest else (k, w) :: put key v rest

/-- The form of a name in which its letter case does not matter; only a text is a name. -/
def keyOf : Value → Except Fault String
  | .str s => .ok (Text.lower s)
  | _ => .error .noSuchMember

/-- Gives a language further names, in order, up to the first that is no name. -/
def addAliases (language : String) (aliases : List (String × String)) :
    List Value → Except Fault Unit × List (String × String)
  | [] => (.ok (), aliases)
  | v :: rest =>
    match keyOf v with
    | .ok further => addAliases language (put further language aliases) rest
    | .error fault => (.error fault, aliases)

/-- Adds a kind of generator under a language and further names, which may be left out. What is no
kind of generator is refused; names that are none are refused after those before them are in. -/
def register (r : Registry) (language : Value) (kind : Option GeneratorKind) (aliases : Value) :
    Except Fault Unit × Registry :=
  match kind, keyOf language with
  | none, _ => (.error .notGenerator, r)
  | some _, .error fault => (.error fault, r)
  | some kind, .ok key =>
    let r := { r with kinds := put key kind r.kinds }
    match if aliases.truthy then aliases.items? else some [] with
    | none => (.error .wrongType, r)
    | some names =>
      let (outcome, aliases) := addAliases key r.aliases names
      (outcome, { r with aliases })

/-- Texts in ascending order of their code points. -/
def sorted (names : List String) : List String := names.mergeSort fun a b => !(b < a)

def languages (r : Registry) : List String := sorted (r.kinds.map (·.1))

/-- The language that a name stands for. -/
def resolve (r : Registry) (name : Value) : Except Fault String := do
  let key ← keyOf name
  if (r.kinds.lookup key).isSome then .ok key
  else
    match r.aliases.lookup key with
    | some language => .ok language
    | none => .error (.unknownLanguage name.display r.languages)

def aliasesOf (r : Registry) (language : Value) : Except Fault (List String) := do
  let key ← keyOf language
  .ok (sorted ((r.aliases.filter fun (_, target) => target == key).map (·.1)))

/-- The kind of generator of a language that is registered. -/
def kindOf (r : Registry) (language : String) : Except Fault GeneratorKind :=
  match r.kinds.lookup language with
  | some kind => .ok kind
  | none => .error .missingKey

/-- Makes a generator for a name; whatever goes wrong after the name is found is put down to it. -/
def create (r : Registry) (name : Value) (source : SettingsSource) (disk : Disk) :
    Except Fault Generator := do
  let language ← r.resolve name
  let kind ← r.kindOf language
  let made := do
    let settings ← source.settings language disk
    kind.make settings
  made.mapError (Fault.creation name.display)

def info (r : Registry) (name : Value) : Except Fault LanguageInfo := do
  let language ← r.resolve name
  let kind ← r.kindOf language
  let settings ← Settings.combine (.str language) .null []
  let generator ← kind.make settings
  let aliases ← r.aliasesOf (.str language)
  .ok ⟨generator.language, kind.name, generator.settings.sourceExtension, aliases⟩

/-- The languages that come with the library. -/
def bundled : Registry := ⟨[("gosu", .gosu)], [("gs", "gosu")]⟩

end Registry

end GosuForge
