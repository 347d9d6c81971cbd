import GosuForge.Model.Basic

/-!
# Modifiers

The keywords before a declaration, in the order visibility, `static`, `abstract`, `final`. Package
visibility has no keyword.
-/

namespace GosuForge

inductive Modifier
  | visible (v : Visibility)
  | static
  | abstract
  | final
  deriving DecidableEq, Repr

namespace Modifier

def word : Modifier → String
  | visible v => v.word
  | static => "static"
  | abstract => "abstract"
  | final => "final"

def words (modifiers : List Modifier) : List String := modifiers.map word

def ofVisibility (e : Element) : List Modifier :=
  match e.visibility? with
  | none => []
  | some .packageAccess => []
  | some v => [visible v]

def visibilityWord? (e : Element) : Option String := (words (ofVisibility e)).head?

/-- The modifiers that an element's own flags ask for. -/
def ofElement (e : Element) : List Modifier :=
  ofVisibility e ++ (if e.flags.isStatic then [static] else [])
    ++ (if e.flags.isAbstract then [abstract] else [])
    ++ (if e.flags.isLeaf || e.flags.isFinalSpecialization then [final] else [])

def isAbstract (e : Element) : Bool := (ofElement e).contains abstract

/-- Whether one of some elements is abstract; those after the first that is are not looked at. -/
def anyAbstract (m : Model) : List ElementId → Except Fault Bool
  | [] => .ok false
  | id :: rest => do
    let e ← m.read id
    if e.flags.isAbstract then .ok true else anyAbstract m rest

/-- A classifier with an abstract operation is abstract; unless the keyword is its own, it is last. -/
def ofClassifier (m : Model) (e : Element) : Except Fault (List Modifier) :=
  if isAbstract e then .ok (ofElement e)
  else do
    let operations ← Members.given e.operations?
    let found ← anyAbstract m operations
    .ok (ofElement e ++ if found then [abstract] else [])

/-- A method with a body is not abstract. -/
def ofMethod (e : Element) (withoutBody : Bool) : List Modifier :=
  if withoutBody then ofElement e else (ofElement e).filter (· ≠ abstract)

end Modifier

end GosuForge
