import GosuForge.Template.Parser
import GosuForge.Text.Case
import GosuForge.Text.Decomposition

/-!
# Template languages

A `TemplateLanguage` reads texts as templates of a name. What a template makes of values is a
`Rendering`, on the way of which other templates may be loaded; an engine answers these requests.

`TemplateLanguage.tags` is the part of the language in which the shipped header is written: the tags
that `Template.parse` reads. Values are escaped in templates whose names end as those of markup files
do. Names in one template that differ only in the form of their characters stand for one value.
-/

namespace GosuForge

/-- A text or a fault, perhaps after other templates were loaded by their names: a rendering goes on
with the text of a template, with `none` if there is none of the name, or with the fault of one that
cannot be read. -/
inductive Rendering
  | done (result : Except Fault String)
  | load (name : String) (next : Except Fault (Option String) → Rendering)

/-- How the text of a template of a name is read, and what the template makes of values. -/
structure TemplateLanguage where
  read : (name text : String) → Except Fault (Value → Rendering)

namespace TemplateLanguage

/-- What a text makes of values as the template of a name. -/
def rendering (language : TemplateLanguage) (name text : String) (context : Value) : Rendering :=
  match language.read name text with
  | .ok write => write context
  | .error fault => .done (.error fault)

/-- What the template of a name makes of values: it is loaded before. -/
def template (language : TemplateLanguage) (name : String) (context : Value) : Rendering :=
  .load name fun
    | .ok (some text) => language.rendering name text context
    | .ok none => .done (.error .template)
    | .error fault => .done (.error fault)

/-! ## Tags -/

def escapingFor (name : String) : Template.Escaping :=
  let name := (Text.lower name).toList
  if ".html".toList.isSuffixOf name || ".xml".toList.isSuffixOf name then .markup else .plain

/-- What names stand for that are given no value, in a template of the given name. -/
def usualValues (name : Value) : Entries :=
  [("range", .str "<class 'range'>"), ("dict", .str "<class 'dict'>"),
   ("namespace", .str "<class 'jinja2.utils.Namespace'>"),
   ("cycler", .str "<class 'jinja2.utils.Cycler'>"),
   ("joiner", .str "<class 'jinja2.utils.Joiner'>"),
   ("self", .str ("<TemplateReference " ++ name.inner ++ ">"))]

/-- What the names of one spelling stand for among the names of a template with their spellings: the
value, if any, of the last of them. -/
def valueOf (values : Entries) (names : List (String × List Char)) (spelling : List Char) :
    Option Value :=
  let same := names.filter fun (_, other) => other = spelling
  same.getLast?.bind fun (name, _) => values.lookup name

/-- The values that a template reads. Its names are in the order in which they first appear, but the
name of the template itself comes before all others. -/
def readValues (template : Template) (values : Entries) : Entries :=
  let names := ("self" :: TemplatePiece.namesOf template).eraseDups.map fun name =>
    (name, Text.decomposition name)
  let read := names.filterMap fun (name, spelling) =>
    (valueOf values names spelling).map fun v => (name, v)
  read ++ values.filter fun (name, _) => !names.any (·.1 = name)

/-- Renders with values by name, none of which may be for the template itself. -/
def renderWith (template : Template) (e : Template.Escaping) (name context : Value) :
    Except Fault String :=
  match context with
  | .obj entries =>
    if Entries.has entries "self" then .error .template
    else template.render e (readValues template (entries ++ usualValues name))
  | _ => .error .template

/-- Templates of tags, none of which loads another one. -/
def tags : TemplateLanguage where
  read name text := do
    let template ← Template.parse text
    .ok fun context => .done (renderWith template (escapingFor name) (.str name) context)

end TemplateLanguage

end GosuForge
