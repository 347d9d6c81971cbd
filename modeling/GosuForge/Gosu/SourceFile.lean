import GosuForge.Gosu.Declaration
import GosuForge.Template.Parser

/-!
# Source files

A source file is a header with the package and the imports above one declaration. `header` is the
template of the header; `plainFile` writes the same lines without a template.

* `SourceFile.render?`: the file of a declaration, `none` for an element that has none;
* `SourceFile.fileName`: its name.
-/

namespace GosuForge.SourceFile

def templateName : String := "source_file.gs.j2"

/-- The text of the header template. -/
def templateText : String :=
  "\x7b% if package_name %\x7dpackage \x7b\x7b package_name \x7d\x7d\n\x7b% endif %\x7d\n"
    ++ "\x7b% for module in uses %\x7duses \x7b\x7b module \x7d\x7d;\n"
    ++ "\x7b% endfor %\x7d\x7b% if uses %\x7d\n\x7b% endif %\x7d\x7b\x7b body \x7d\x7d\n"

/-- The header template: package line, empty line, imports and an empty line after them. -/
def header : Template :=
  [.conditional "package_name" [.text "package ", .output "package_name", .text "\n"],
   .text "\n",
   .repeated "module" "uses" [.text "uses ", .output "module", .text ";\n"],
   .conditional "uses" [.text "\n"],
   .output "body"]

/-- The lines of a file without a template. -/
def plainFile (packageName : String) (uses : List Value) (body : String) : String :=
  let packageLines := if packageName = "" then [] else ["package " ++ packageName]
  let useLines :=
    if uses.isEmpty then [] else uses.map (fun v => "uses " ++ v.display ++ ";") ++ [""]
  Text.joinLines (packageLines ++ [""] ++ useLines ++ [body])

/-- What a file is made with: the header template, or none. -/
def compose (template : Option Template) (packageName : String) (uses : List Value)
    (body : String) : Except Fault String :=
  match template with
  | some template =>
    template.render .plain
      [("package_name", .str packageName), ("uses", .arr uses), ("body", .str body)]
  | none => .ok (plainFile packageName uses body)

/-- Line feeds are written as the line ending of the settings. -/
def endLines (lineEnding : Value) (content : String) : Except Fault String :=
  match lineEnding with
  | .str "\n" => .ok content
  | .str ending => .ok (Text.withEnding ending content)
  | _ => .error .wrongType

/-- The file of a declaration in a run that starts at `root`. -/
def render? (r : Repository) (g : GosuSettings) (template : Option Template)
    (root : Option ElementId) (id : ElementId) : Inspection (Option String) := do
  let m ← get
  let e := m.get id
  match DeclarationForm.of? e with
  | none => pure none
  | some form =>
    if !e.isNamed then pure none
    else do
      let indentText ← g.indentText
      let script ← Declaration.script r g form id
      let writer ← (Writer.new indentText).run script
      let uses := if form = .enumeration then [] else g.uses
      let path ← m.packagePath id root
      let packageName ← Model.joinNames "." path
      let content ← compose template packageName uses (writer.text "\n")
      let content ← endLines g.general.lineEnding content
      pure (some content)

/-- Only a text can be put before an extension. -/
def fileName (g : GosuSettings) (e : Element) : Except Fault String :=
  match e.name with
  | .str name =>
    .ok (name ++
      if DeclarationForm.hasStereotype e DeclarationForm.enhancementStereotype then
        g.enhancementExtension
      else g.sourceExtension)
  | _ => .error .wrongType

end GosuForge.SourceFile
