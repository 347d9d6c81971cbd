import GosuForge.Fault

/-!
# Templates

A template is text with places for named values, parts that appear only if a value counts as true,
and parts that are repeated for what a value yields. A name without a value prints as nothing,
counts as false and yields nothing.
-/

namespace GosuForge

inductive TemplatePiece
  | text (s : String)
  | output (name : String)
  | conditional (name : String) (body : List TemplatePiece)
  | repeated (item name : String) (body : List TemplatePiece)
  deriving Repr, Inhabited

abbrev Template := List TemplatePiece

namespace TemplatePiece

mutual

/-- The names whose values a piece reads when it is reached; those in the body of a repeated piece
are read later. -/
def names : TemplatePiece → List String
  | text _ => []
  | output name => [name]
  | conditional name body => name :: namesOf body
  | repeated _ name _ => [name]
termination_by structural x => x

def namesOf : List TemplatePiece → List String
  | [] => []
  | piece :: rest => piece.names ++ namesOf rest
termination_by structural x => x

end

end TemplatePiece

namespace Template

/-- How values are written: as they are, or with the characters that mean something in markup
replaced by references. -/
inductive Escaping
  | plain
  | markup
  deriving DecidableEq, Repr

def markupReference (c : Char) : List Char :=
  match c with
  | '&' => "&amp;".toList
  | '<' => "&lt;".toList
  | '>' => "&gt;".toList
  | '\x22' => "&#34;".toList
  | '\x27' => "&#39;".toList
  | _ => [c]

def Escaping.apply (e : Escaping) (s : String) : String :=
  match e with
  | .plain => s
  | .markup => String.ofList (s.toList.flatMap markupReference)

/-- The text of a value that may be missing. -/
def outputText (e : Escaping) (v : Option Value) : String :=
  match v with
  | some v => e.apply v.display
  | none => ""

/-- What a value that may be missing yields. -/
def yielded (v : Option Value) : Except Fault (List Value) :=
  match v with
  | none => .ok []
  | some v =>
    match v.items? with
    | some items => .ok items
    | none => .error .template

mutual

def renderPiece (e : Escaping) (context : Entries) : TemplatePiece → Except Fault String
  | .text s => .ok s
  | .output name => .ok (outputText e (context.lookup name))
  | .conditional name body =>
    if ((context.lookup name).getD .null).truthy then renderAll e context body else .ok ""
  | .repeated item name body => do
    let items ← yielded (context.lookup name)
    let texts ← items.mapM fun v => renderAll e ((item, v) :: context) body
    .ok (String.join texts)
termination_by structural x => x

def renderAll (e : Escaping) (context : Entries) : List TemplatePiece → Except Fault String
  | [] => .ok ""
  | piece :: rest => do
    let first ← renderPiece e context piece
    let others ← renderAll e context rest
    .ok (first ++ others)
termination_by structural x => x

end

def render (template : Template) (e : Escaping) (context : Entries) : Except Fault String :=
  renderAll e context template

end Template

end GosuForge
