import GosuForge.Text.Line

/-!
# Paths

A path is an anchor and the names below it. Empty names and single points vanish when a text is read
as a path, two points stay; two slashes at the start are an anchor of their own, and more than two
are one. Joining an absolute path to another replaces it.
-/

namespace GosuForge

inductive Anchor
  | relative
  | root
  | doubleRoot
  deriving DecidableEq, Repr

structure Path where
  anchor : Anchor
  parts : List String
  deriving DecidableEq, Repr

namespace Path

def anchorOf : List Char → Anchor
  | '/' :: '/' :: '/' :: _ => .root
  | '/' :: '/' :: _ => .doubleRoot
  | '/' :: _ => .root
  | _ => .relative

def isName (part : String) : Bool := part != "" && part != "."

def ofString (s : String) : Path :=
  ⟨anchorOf s.toList, (Text.split '/' s).filter isName⟩

def here : Path := ⟨.relative, []⟩

/-- The path `s` as seen from `p`. -/
def join (p : Path) (s : String) : Path :=
  let q := ofString s
  if q.anchor = .relative then ⟨p.anchor, p.parts ++ q.parts⟩ else q

def anchorText : Anchor → String
  | .relative => ""
  | .root => "/"
  | .doubleRoot => "//"

def toString (p : Path) : String :=
  if p.anchor = .relative && p.parts.isEmpty then "."
  else anchorText p.anchor ++ Text.join "/" p.parts

instance : ToString Path := ⟨toString⟩

/-- The last name of the path, empty if it has none. -/
def name (p : Path) : String := p.parts.getLastD ""

def parent (p : Path) : Path := ⟨p.anchor, p.parts.dropLast⟩

/-- The last name from its last point on, if something stands on both sides of that point. -/
def suffix (p : Path) : String :=
  let reversed := p.name.toList.reverse
  let after := reversed.takeWhile (· ≠ '.')
  let before := reversed.drop (after.length + 1)
  if after.isEmpty || before.isEmpty then "" else String.ofList ('.' :: after.reverse)

end Path

end GosuForge
