import GosuForge.Gosu.Declaration

/-!
# Parts of declarations

A declaration is written part by part, and each part can also be written on its own: `script` is
what it consists of.
-/

namespace GosuForge

inductive DeclarationPart
  | whole (form : DeclarationForm)
  | constructor
  | variableOf
  | method (withoutBody withoutParameters : Bool)
  | members (withAssociations : Bool)
  | operations
  | inheritedStubs
  | nested
  deriving DecidableEq, Repr

namespace DeclarationPart

def script (part : DeclarationPart) (r : Repository) (g : GosuSettings) (id : ElementId) :
    Inspection Script := do
  let m ← get
  let e := m.get id
  match part with
  | whole form => Declaration.script r g form id
  | constructor => pure (Member.constructor g e)
  | variableOf => Member.variableFor g e
  | method withoutBody withoutParameters => Member.method g e withoutBody withoutParameters
  | members withAssociations => Declaration.members r g id withAssociations
  | operations => Declaration.operations g id
  | inheritedStubs => Declaration.inheritedStubs g (some id)
  | nested => Declaration.nestedScript r g m.depth id

end DeclarationPart

end GosuForge
