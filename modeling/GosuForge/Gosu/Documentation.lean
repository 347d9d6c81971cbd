import GosuForge.Gosu.Settings
import GosuForge.Layout.Writer
import GosuForge.Model.Description
import GosuForge.Text.Blank

/-!
# Documentation comments

A comment is a block of lines between `/**` and ` */`, each line after ` * `. The documentation of
an operation loses its `@param` and `@return` lines and gets new ones from the parameters.
-/

namespace GosuForge.Documentation

/-- The block for a text, which is written only if there is one and comments are wanted. -/
def block (g : GosuSettings) (text : Value) : Script :=
  if !g.general.docComments.truthy then []
  else
    match text with
    | .str s =>
      if s = "" then []
      else
        .line "/**" :: (Text.splitLines (Text.trim s)).map (fun line => Move.line (" * " ++ line))
          ++ [.line " */"]
    | _ => []

def trimmed (e : Element) : Except Fault String :=
  match e.documentation with
  | .str s => .ok (Text.trim s)
  | _ => .error .noSuchMember

/-- The documentation of a declaration, with a line for the author if there is one. -/
def withAuthor (g : GosuSettings) (e : Element) : Except Fault String := do
  let doc ← trimmed e
  if !g.general.author.truthy then .ok doc
  else
    match g.general.author with
    | .str author => .ok (doc ++ "\n@author " ++ author)
    | _ => .error .wrongType

/-- Lines that are made anew from the parameters. -/
def isTag (line : String) : Bool :=
  Text.startsWith "@param" line || Text.startsWith "@return" line

def paramLine (m : Model) (p : Element) : String :=
  "\n@param " ++ m.display p.name ++ " " ++ m.display p.documentation

def returnLine (m : Model) (p : Element) : String := "\n@return " ++ m.display p.documentation

/-- The documentation of an operation with the given parameters and result. -/
def ofMethod (m : Model) (e : Element) (params : List Element) (result : Option Element) :
    Except Fault String := do
  let doc ← trimmed e
  let kept := (Text.splitLines doc).filter fun line => !isTag line
  let lines := kept.map (fun line => "\n" ++ line) ++ params.map (paramLine m)
    ++ (result.map (returnLine m)).toList
  .ok (lines.foldr (· ++ ·) "")

end GosuForge.Documentation
