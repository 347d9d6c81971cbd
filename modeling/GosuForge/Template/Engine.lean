import GosuForge.Template.Language

/-!
# Template engines

A `TemplateEngine` finds templates by name among those added to it and those of a folder. Added ones
go first, but a template of the folder that was once loaded is kept and stays in use. What a text is
as a template, and what a template makes of values, is up to the language of the engine.
-/

namespace GosuForge

structure TemplateEngine where
  language : TemplateLanguage
  folder : String → Option String
  added : List (String × String)
  kept : List (String × String)

namespace TemplateEngine

/-- An engine that nothing was added to yet. -/
def reading (language : TemplateLanguage) (folder : String → Option String) : TemplateEngine :=
  ⟨language, folder, [], []⟩

/-- An engine for templates of tags. -/
def new (folder : String → Option String) : TemplateEngine := reading .tags folder

/-- Adds a template, in place of one of the same name. -/
def add (engine : TemplateEngine) (name content : String) : TemplateEngine :=
  { engine with added := (name, content) :: engine.added.filter fun (n, _) => n != name }

/-- The text of a template, and whether it comes from the folder and is to be kept. -/
def source? (engine : TemplateEngine) (name : String) : Option (String × Bool) :=
  match engine.kept.lookup name with
  | some text => some (text, false)
  | none =>
    match engine.added.lookup name with
    | some text => some (text, false)
    | none => (engine.folder name).map fun text => (text, true)

def keep (engine : TemplateEngine) (name text : String) : TemplateEngine :=
  { engine with kept := (name, text) :: engine.kept }

/-- Loads a template, which must be readable: `none` if there is none of the name. -/
def load (engine : TemplateEngine) (name : String) :
    Except Fault (Option String) × TemplateEngine :=
  match engine.source? name with
  | none => (.ok none, engine)
  | some (text, isNew) =>
    match engine.language.read name text with
    | .error fault => (.error fault, engine)
    | .ok _ => (.ok (some text), if isNew then engine.keep name text else engine)

def has (engine : TemplateEngine) (name : String) : Except Fault Bool × TemplateEngine :=
  let (found, engine) := engine.load name
  (found.map Option.isSome, engine)

/-- Goes through with a rendering; each template that it asks for is loaded. -/
def run (engine : TemplateEngine) : Rendering → Except Fault String × TemplateEngine
  | .done result => (result, engine)
  | .load name next => run (engine.load name).2 (next (engine.load name).1)

/-- Goes through with the rendering of a template; whatever goes wrong is the template's fault. -/
def complete (engine : TemplateEngine) (rendering : Rendering) :
    Except Fault String × TemplateEngine :=
  match engine.run rendering with
  | (.ok text, engine) => (.ok text, engine)
  | (.error _, engine) => (.error .template, engine)

/-- Renders a template by name. -/
def render (engine : TemplateEngine) (name : String) (context : Value) :
    Except Fault String × TemplateEngine :=
  engine.complete (engine.language.template name context)

/-- Renders a text of tags as a template without a name. -/
def renderText (text : String) (context : Value) : Except Fault String :=
  match Template.parse text with
  | .error _ => .error .template
  | .ok template =>
    match TemplateLanguage.renderWith template .plain .null context with
    | .ok text => .ok text
    | .error _ => .error .template

end TemplateEngine

end GosuForge
