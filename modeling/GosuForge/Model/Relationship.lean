import GosuForge.Model.Basic

/-!
# Relationships

Relationships are kept apart from the elements in the order in which they were added. A `Repository`
answers which of them involve an element; the queries below follow them from their sources.
-/

namespace GosuForge

inductive DirectedKind
  /-- The source extends the target. -/
  | generalization
  /-- The source implements the target. -/
  | realization
  deriving DecidableEq, Repr

inductive Relationship
  | directed (kind : DirectedKind) (name : Value) (source target : Option ElementId)
  | association (name : Value) (end1 end2 : ElementId)
  deriving Repr

abbrev Repository := List Relationship

namespace Relationship

/-- Whether an element is at one of the sides of a relationship. The second end of an association is
looked at only if the first one does not stand at the element. -/
def involves (m : Model) (id : ElementId) : Relationship → Except Fault Bool
  | directed _ _ source target => .ok (source == some id || target == some id)
  | association _ end1 end2 => do
    let first ← m.referenceOf end1
    if first == some id then .ok true
    else do
      let second ← m.referenceOf end2
      .ok (second == some id)

def isDirected (kind : DirectedKind) : Relationship → Bool
  | directed k _ _ _ => k == kind
  | association _ _ _ => false

def isAssociation : Relationship → Bool
  | association _ _ _ => true
  | directed _ _ _ _ => false

end Relationship

namespace Repository

/-- The relationship at a place, which is counted from the end if it is negative. -/
def atPlace (r : Repository) (place : Value) : Except Fault Relationship :=
  match place.wholeNumber? with
  | none => .error .wrongType
  | some n =>
    let n := if n < 0 then n + r.length else n
    match if n < 0 then none else r[n.toNat]? with
    | some relationship => .ok relationship
    | none => .error .outOfRange

/-- The relationships of an element in order, with their places in the repository. -/
def involving (r : Repository) (m : Model) (id : ElementId) :
    Except Fault (List (Relationship × Nat)) :=
  r.zipIdx.filterM fun (relationship, _) => relationship.involves m id

/-- The places in the repository of those that satisfy `keep`. -/
def placesOf (r : Repository) (m : Model) (id : ElementId) (keep : Relationship → Bool) :
    Except Fault (List Nat) := do
  let found ← r.involving m id
  .ok ((found.filter fun (relationship, _) => keep relationship).map (·.2))

/-- The target of a relationship of a kind that starts at an element. -/
def targetOf? (kind : DirectedKind) (id : ElementId) :
    Relationship → Option (Option ElementId)
  | .directed k _ source target => if k = kind && source = some id then some target else none
  | .association _ _ _ => none

/-- The targets of the relationships of a kind that start at an element. -/
def targets (r : Repository) (m : Model) (kind : DirectedKind) (id : ElementId) :
    Except Fault (List (Option ElementId)) := do
  let found ← r.involving m id
  .ok (found.filterMap fun (relationship, _) => targetOf? kind id relationship)

def superClasses (r : Repository) (m : Model) (id : ElementId) :
    Except Fault (List (Option ElementId)) :=
  r.targets m .generalization id

def superInterfaces (r : Repository) (m : Model) (id : ElementId) :
    Except Fault (List (Option ElementId)) :=
  r.targets m .realization id

/-- The two ends of every association that an element takes part in. -/
def associations (r : Repository) (m : Model) (id : ElementId) :
    Except Fault (List (ElementId × ElementId)) := do
  let found ← r.involving m id
  .ok (found.filterMap fun (relationship, _) =>
    match relationship with
    | .association _ end1 end2 => some (end1, end2)
    | .directed _ _ _ _ => none)

end Repository

end GosuForge
