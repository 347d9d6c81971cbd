import GosuForge.Proofs.DeclarationBody

/-!
# Every end is a member once

The navigable ends that stand opposite to a class, an enhancement or an interface are members of its
declaration, each as often as its association stands in the repository, and of no other one.

* `Repository.shownEnds`: the ends that the declaration of an element has to show;
* `Repository.count_shownEnds`: how often some declarations show an end;
* `Declaration.association_members`: what is written for the ends in a declaration, and in all of them.
-/

namespace GosuForge

/-- Whether an element is declared in a form that takes ends of associations as members. -/
def Model.takesEnds (m : Model) (id : ElementId) : Bool :=
  (DeclarationForm.of? (m.get id)).any DeclarationForm.takesEnds

namespace Repository

variable {r : Repository} {m : Model} {id : ElementId} {side : AssociationSide}

/-- The ends that are members of the declaration of an element, in the order of the repository. -/
def shownEnds (r : Repository) (m : Model) (id : ElementId) : List AssociationSide :=
  if m.takesEnds id then r.sides.filter (·.isMemberOf m id) else []

theorem memberEnds_eq_shownEnds {form : DeclarationForm}
    (h : DeclarationForm.of? (m.get id) = some form) : r.memberEnds m form id = r.shownEnds m id := by
  rw [memberEnds, shownEnds, Model.takesEnds, h, Option.any_some]

theorem mem_shownEnds : side ∈ r.shownEnds m id ↔ side ∈ r.sides ∧
    m.isNavigable side.far = true ∧ m.standsAt? side.near = some id ∧ m.takesEnds id = true := by
  rw [shownEnds]
  split
  · rename_i takes
    rw [List.mem_filter, AssociationSide.isMemberOf, Bool.and_eq_true, beq_iff_eq]
    tauto
  · rename_i takesNone
    exact iff_of_false List.not_mem_nil fun h => takesNone h.2.2.2

theorem nodup_shownEnds (r : Repository) (m : Model) (id : ElementId) :
    (r.shownEnds m id).Nodup := by
  rw [shownEnds]
  split
  · exact (nodup_sidesFrom 0 r).filter _
  · exact .nil

/-- Declarations of different elements show different ends: the other end stands at one element. -/
theorem count_shownEnds {ids : List ElementId} (nodup : ids.Nodup) (hside : side ∈ r.sides) :
    (ids.flatMap (r.shownEnds m)).count side =
      if m.isNavigable side.far = true ∧
        ∃ id ∈ ids, m.standsAt? side.near = some id ∧ m.takesEnds id = true then 1 else 0 := by
  have all : (ids.flatMap (r.shownEnds m)).Nodup := by
    refine List.nodup_flatMap.mpr ⟨fun id _ => nodup_shownEnds r m id, nodup.imp ?_⟩
    intro id id' different side h h'
    have at_id := (mem_shownEnds.mp h).2.2.1
    have at_id' := (mem_shownEnds.mp h').2.2.1
    exact different (Option.some.inj (at_id.symm.trans at_id'))
  have mem : side ∈ ids.flatMap (r.shownEnds m) ↔ m.isNavigable side.far = true ∧
      ∃ id ∈ ids, m.standsAt? side.near = some id ∧ m.takesEnds id = true := by
    simp only [List.mem_flatMap, mem_shownEnds, hside, true_and]
    constructor
    · rintro ⟨id, hid, navigable, stands, takes⟩
      exact ⟨navigable, id, hid, stands, takes⟩
    · rintro ⟨navigable, id, hid, stands, takes⟩
      exact ⟨id, hid, navigable, stands, takes⟩
  rw [← if_congr mem rfl rfl]
  split
  · exact List.count_eq_one_of_mem all ‹_›
  · exact List.count_eq_zero_of_not_mem ‹_›

end Repository

namespace Declaration

open Inspection

/-- **Ends of associations become members once.** A declaration other than that of an enumeration is a
body, what is nested and the closing brace; the body has a variable for each attribute and then one for
each end that it has to show, in the order of the repository, and declares no other variable: what else
there is of members are the functions of its operations and stubs. An annotation shows no ends, and an
enumeration has lines for its literals only. Of some declarations together, an end that one can go to is
shown once for each place of its association if one of them is of the element that the other end stands
at, in a form that takes ends; else it is not shown. -/
theorem association_members (r : Repository) (g : GosuSettings) (m : Model) :
    (∀ id form nested s, DeclarationForm.of? (m.get id) = some form →
      (scriptFor r g form id nested).answerIn m = .ok s →
      (form ≠ .enumeration → ∃ (b : Body r g m form id) (inner : Script) (m' : Model),
        s = b.script ++ inner ++ close ∧ m.GrowsTo m' ∧ nested.answerIn m' = .ok inner ∧
        List.Forall₂ (Member.WrittenVariable g m)
          ((r.shownEnds m id).map AssociationSide.far) b.ends ∧
        (form.takesEnds = false → b.ends = []) ∧
        ∀ f ∈ b.functions, ¬ Member.DeclaresVariable g f) ∧
      (form = .enumeration → ∃ lines, s = Documentation.block g (m.get id).documentation ++
          [.line (openingLine [] form (m.display (m.get id).name) []), .indent] ++
            lines.map Move.line ++ close ∧
        List.Forall₂ (fun id line => ∃ name, (m.get id).name = .str name ∧
          (line = name ∨ line = name ++ ",")) (m.literalsOf id) lines) ∧
      (form.takesEnds = false → r.shownEnds m id = [])) ∧
    ∀ ids : List ElementId, ids.Nodup → ∀ side ∈ r.sides,
      (ids.flatMap (r.shownEnds m)).count side =
        if m.isNavigable side.far = true ∧
          ∃ id ∈ ids, m.standsAt? side.near = some id ∧ m.takesEnds id = true then 1 else 0 := by
  refine ⟨fun id form nested s hform h => ⟨fun hf => ?_, fun hf => ?_, fun takesNone => ?_⟩,
    fun ids nodup side hside => Repository.count_shownEnds nodup hside⟩
  · obtain ⟨b, inner, m', grown, hinner, rfl⟩ := exists_body hf h
    have ends := b.ends_written
    refine ⟨b, inner, m', rfl, grown, hinner, Repository.memberEnds_eq_shownEnds hform ▸ ends,
      fun takesNone => ?_, b.not_declaresVariable⟩
    rw [Repository.memberEnds, takesNone] at ends
    exact List.forall₂_nil_left_iff.mp ends
  · subst hf
    rw [scriptFor, answerIn_get_bind, answerIn_lift] at h
    obtain ⟨lines, written, rfl⟩ := exists_literals h
    exact ⟨lines, rfl, written⟩
  · rw [Repository.shownEnds, Model.takesEnds, hform, Option.any_some, takesNone]
    rfl

/-- A class with an association to itself, which stands in the repository twice, and one to an
enumeration, with no name for the end at the class. -/
def family : Design where
  model := ⟨#[.newNamed "Person" none (.classifier (.new .classSort)),
    .newNamed "Role" none (.classifier (.new .enumeration)),
    .newNamed "parent" none (.associationEnd { Typing.untyped with type := .element 0 } (.bool true)),
    .newNamed "child" none (.associationEnd { Typing.untyped with type := .element 0 } (.bool true)),
    .newNamed "role" none (.associationEnd { Typing.untyped with type := .element 1 } (.bool true)),
    .newNamed "" none (.associationEnd { Typing.untyped with type := .element 0 } (.bool true))]⟩
  relationships := [.association (.str "") 2 3, .association (.str "") 4 5,
    .association (.str "") 2 3]

/-- The class has both ends of the association to itself, twice, and the end at the enumeration; the
enumeration does not have the end at the class. -/
theorem association_members_family :
    (scriptFor family.relationships .standard .classForm 0 (pure [])).answerIn family.model = .ok
      [.line "public class Person \x7b", .line "", .indent,
        .line "/**", .line " * Default constructor", .line " */",
        .line "public construct() \x7b", .line "\x7d", .line "",
        .line "public var _child : Person", .line "", .line "public var _parent : Person", .line "",
        .line "public var _role : Role", .line "",
        .line "public var _child : Person", .line "", .line "public var _parent : Person", .line "",
        .outdent, .line "\x7d"] ∧
    (∃ (b : Body family.relationships .standard family.model .classForm 0),
      List.Forall₂ (Member.WrittenVariable .standard family.model) [3, 2, 4, 3, 2] b.ends) ∧
    ∀ side ∈ family.relationships.sides,
      ([0, 1].flatMap (family.relationships.shownEnds family.model)).count side =
        if side = ⟨1, true, 4, 5⟩ then 0 else 1 := by
  obtain ⟨declarations, counts⟩ :=
    association_members family.relationships .standard family.model
  have written : (scriptFor family.relationships .standard .classForm 0 (pure [])).answerIn
      family.model = .ok _ := rfl
  obtain ⟨b, -, -, -, -, -, hb, -⟩ := (declarations 0 .classForm _ _ rfl written).1 nofun
  refine ⟨rfl, ⟨b, hb⟩, fun side hside => ?_⟩
  rw [counts [0, 1] (by decide) side hside]
  revert side
  decide

end Declaration

end GosuForge
