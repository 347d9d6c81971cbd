import GosuForge.Proofs.BraceFree
import GosuForge.Proofs.Repository
import GosuForge.Proofs.Resolution

/-!
# Ends of associations as members

A classifier is written with a variable for each of its attributes and for the navigable ends that
stand opposite to it in associations.

* `AssociationSide`, `Repository.sides`: the ends of all associations, each seen from the other one;
* `Member.WrittenVariable`: what is written for an attribute or an end;
* `Repository.memberEnds`: the ends that become members of an element;
* `Declaration.associationMembers_stays`, `Declaration.members_stays`: just these are written.
-/

namespace GosuForge

open Inspection

/-- Texts that are joined before others are joined to them. -/
theorem Text.join_join_cons (sep : String) {texts : List String} (some : texts ≠ [])
    (others : List String) : join sep (join sep texts :: others) = join sep (texts ++ others) := by
  induction texts with
  | nil => exact absurd rfl some
  | cons text rest ih =>
    cases rest with
    | nil => rfl
    | cons next rest =>
      have ih := ih (List.cons_ne_nil next rest)
      cases others with
      | nil => rw [List.append_nil, join]
      | cons other others =>
        rw [join, List.cons_append] at ih
        rw [join, join, List.cons_append, List.cons_append, join, ← ih]
        simp only [String.append_assoc]

/-- A line that begins with keywords shows them one after the other. -/
theorem phrase_keywords {modifiers : List Modifier} {words : List Value} {line : String}
    (h : phrase (keywords modifiers ++ words) = .ok line) :
    ∃ texts, words = texts.map .str ∧
      line = Text.join " " (Modifier.words modifiers ++ texts) := by
  obtain ⟨texts, e, rfl⟩ := Model.joinNames_eq_ok h
  obtain ⟨front, texts, rfl, hfront, rfl⟩ := List.map_eq_append_iff.mp e.symm
  refine ⟨texts, rfl, ?_⟩
  by_cases none : modifiers = []
  · subst none
    rw [List.map_eq_nil_iff.mp hfront]
    rfl
  · have nonempty : Modifier.words modifiers ≠ [] := by simpa [Modifier.words] using none
    have single : front = [Text.join " " (Modifier.words modifiers)] := by
      rw [keywords, if_neg (by simpa using none)] at hfront
      obtain ⟨text, rfl, htext⟩ := List.map_eq_singleton_iff.mp hfront
      rw [Value.str.inj htext]
    rw [single, List.singleton_append, Text.join_join_cons " " nonempty]

namespace Inspection

variable {α β : Type} {m : Model}

/-- Steps for a list that each leave the model as it is answer for each item of it. -/
theorem StaysIn.forall₂ {R : α → β → Prop} {f : α → Inspection β} {xs : List α}
    (h : ∀ x ∈ xs, StaysIn m (R x) (f x)) : StaysIn m (List.Forall₂ R xs) (xs.mapM f) := by
  induction xs with
  | nil => exact .pure .nil
  | cons x xs ih =>
    obtain ⟨first, others⟩ := List.forall_mem_cons.mp h
    rw [List.mapM_cons]
    exact first.bind fun y hy => (ih others).bind fun ys hys => .pure (.cons hy hys)

/-- What follows an inspection that leaves the model as it is. -/
theorem StaysIn.answerIn_bind_eq_ok {p : α → Prop} {i : Inspection α} {f : α → Inspection β} {y : β}
    (hi : StaysIn m p i) (h : (i >>= f).answerIn m = .ok y) :
    ∃ x, p x ∧ (f x).answerIn m = .ok y := by
  rw [answerIn, runIn_bind] at h
  rcases first : i.runIn m with ⟨fault | x, between⟩
  · rw [first] at h
    cases h
  · obtain ⟨hx, rfl⟩ := hi x between first
    rw [first] at h
    exact ⟨x, hx, h⟩

theorem runIn_bind_eq_ok {m' : Model} {i : Inspection α} {f : α → Inspection β} {y : β}
    (h : (i >>= f).runIn m = (.ok y, m')) :
    ∃ x between, i.runIn m = (.ok x, between) ∧ (f x).runIn between = (.ok y, m') := by
  rw [runIn_bind] at h
  rcases first : i.runIn m with ⟨fault | x, between⟩
  · rw [first] at h
    cases h
  · rw [first] at h
    exact ⟨x, between, rfl, h⟩

/-- A first step that does not look at the model. -/
theorem runIn_lift_bind_eq_ok {m' : Model} {x : Except Fault α} {f : α → Inspection β} {y : β}
    (h : ((liftM x : Inspection α) >>= f).runIn m = (.ok y, m')) :
    ∃ a, x = .ok a ∧ (f a).runIn m = (.ok y, m') := by
  obtain ⟨a, between, ha, h⟩ := runIn_bind_eq_ok h
  rw [runIn_lift] at ha
  obtain ⟨rfl, rfl⟩ := Prod.mk.inj ha
  exact ⟨a, rfl, h⟩

end Inspection

/-! ## Variables -/

/-- A type that is a text leaves the model as it is: only a type that is a list can let it grow. -/
theorem TypeStyle.runIn_expression {m m' : Model} {e : Element} {type : String}
    (h : (default.expression e).runIn m = (.ok (.str type), m')) : m' = m := by
  unfold expression at h
  rw [runIn_bind_of_ok _ (runIn_get m)] at h
  obtain ⟨amount, -, h⟩ := runIn_lift_bind_eq_ok h
  cases amount with
  | single => exact (Prod.mk.inj h).2.symm
  | collection => exact (Prod.mk.inj h).2.symm
  | array =>
    unfold withSuffix at h
    rw [runIn_bind_of_ok _ (runIn_get _)] at h
    split at h
    · rename_i kept _ _
      cases kept.symm.trans (Except.ok.inj (Prod.mk.inj h).1)
    · rw [runIn_lift] at h
      exact (Prod.mk.inj h).2.symm

namespace Member

variable {g : GosuSettings} {m : Model}

/-- The comment and the line of a variable, or nothing for an element without a name. -/
def IsVariable (g : GosuSettings) (e : Element) (f : Script) : Prop :=
  (e.isNamed = true → ∃ name type after, e.name = .str name ∧
    f = Documentation.block g e.documentation ++ [.line (Text.join " "
      (Modifier.words (Modifier.ofElement e) ++ ["var", Naming.fieldName name, ":", type] ++
        after))]) ∧
  (e.isNamed = false → f = [])

/-- What is written for an attribute or an end of an association. -/
structure WrittenVariable (g : GosuSettings) (m : Model) (id : ElementId) (f : Script) : Prop where
  answered : (variableFor g (m.get id)).answerIn m = .ok f
  isVariable : IsVariable g (m.get id) f

/-- Writing a variable leaves every model as it is: a list in the place of its type, which might
grow, cannot stand in a line. -/
theorem variableFor_stays (id : ElementId) :
    StaysIn m (WrittenVariable g m id) (variableFor g (m.get id)) := by
  intro f m' answered
  suffices IsVariable g (m.get id) f ∧ m' = m from
    ⟨⟨congrArg Prod.fst answered, this.1⟩, this.2⟩
  rw [variableFor] at answered
  split at answered
  · rename_i unnamed
    cases answered
    exact ⟨⟨fun named => by simp [named] at unnamed, fun _ => rfl⟩, rfl⟩
  · rename_i named
    obtain ⟨field, hfield, answered⟩ := runIn_lift_bind_eq_ok answered
    obtain ⟨name, hname, rfl⟩ : ∃ name, (m.get id).name = .str name ∧
        field = Naming.fieldName name := by
      unfold fieldName at hfield
      split at hfield
      · exact ⟨_, ‹_›, (Except.ok.inj hfield).symm⟩
      · cases hfield
    obtain ⟨type, between, htype, answered⟩ := runIn_bind_eq_ok answered
    obtain ⟨default, -, answered⟩ := runIn_lift_bind_eq_ok answered
    obtain ⟨line, hline, answered⟩ := runIn_lift_bind_eq_ok answered
    cases answered
    rw [List.append_assoc, List.append_assoc] at hline
    obtain ⟨texts, htexts, rfl⟩ := phrase_keywords hline
    obtain ⟨_, texts, rfl, hvar, htexts⟩ := List.map_eq_cons_iff.mp htexts.symm
    obtain ⟨_, texts, rfl, hfield, htexts⟩ := List.map_eq_cons_iff.mp htexts
    obtain ⟨_, texts, rfl, hcolon, htexts⟩ := List.map_eq_cons_iff.mp htexts
    obtain ⟨text, after, rfl, rfl, -⟩ := List.map_eq_cons_iff.mp htexts
    obtain rfl := Value.str.inj hvar
    obtain rfl := Value.str.inj hfield
    obtain rfl := Value.str.inj hcolon
    refine ⟨⟨fun _ => ⟨name, text, after, hname, ?_⟩, fun unnamed => ?_⟩,
      TypeStyle.runIn_expression htype⟩
    · rw [List.append_assoc]
      rfl
    · simp [unnamed] at named

end Member

/-! ## The ends of associations -/

namespace Model

/-- The element that an end of an association stands at. -/
def standsAt? (m : Model) (near : ElementId) : Option ElementId :=
  (m.get near).reference?.bind TypeRef.id?

def isNavigable (m : Model) (far : ElementId) : Bool := (m.get far).navigable?.any Value.truthy

theorem standsAt?_eq {m : Model} {near : ElementId} {at? : Option ElementId}
    (h : m.referenceOf near = .ok at?) : m.standsAt? near = at? := by
  rw [referenceOf] at h
  split at h
  · rename_i reference hr
    rw [standsAt?, hr]
    exact Except.ok.inj h
  · cases h

end Model

/-- An end of an association, seen from the other end of it. -/
structure AssociationSide where
  /-- The place of the association in the repository. -/
  place : Nat
  isSecond : Bool
  near : ElementId
  far : ElementId
  deriving DecidableEq, Repr

namespace AssociationSide

/-- Whether the far end is a member of an element: the near end stands at the element, and one can go
from there to the far end. -/
def isMemberOf (m : Model) (id : ElementId) (side : AssociationSide) : Bool :=
  m.standsAt? side.near == some id && m.isNavigable side.far

end AssociationSide

namespace DeclarationForm

/-- Whether the ends of associations are members of a declaration in the form. -/
def takesEnds : DeclarationForm → Bool
  | classForm => true
  | enhancement => true
  | interface => true
  | enumeration => false
  | annotationForm => false

end DeclarationForm

namespace Repository

/-- The ends of the associations that stand from a place on, of each the second one first. -/
def sidesFrom (place : Nat) : Repository → List AssociationSide
  | [] => []
  | .directed _ _ _ _ :: rest => sidesFrom (place + 1) rest
  | .association _ end1 end2 :: rest =>
    ⟨place, true, end1, end2⟩ :: ⟨place, false, end2, end1⟩ :: sidesFrom (place + 1) rest

def sides (r : Repository) : List AssociationSide := sidesFrom 0 r

/-- The ends that are members of a declaration of an element. -/
def memberEnds (r : Repository) (m : Model) (form : DeclarationForm) (id : ElementId) :
    List AssociationSide :=
  if form.takesEnds then r.sides.filter (·.isMemberOf m id) else []

theorem place_le_of_mem_sidesFrom {r : Repository} {place : Nat} {side : AssociationSide}
    (h : side ∈ sidesFrom place r) : place ≤ side.place := by
  induction r generalizing place with
  | nil => exact absurd h List.not_mem_nil
  | cons x rest ih =>
    cases x with
    | directed kind name source target => exact Nat.le_of_succ_le (ih h)
    | association name end1 end2 =>
      rcases List.mem_cons.mp h with rfl | h
      · exact Nat.le_refl _
      · rcases List.mem_cons.mp h with rfl | h
        · exact Nat.le_refl _
        · exact Nat.le_of_succ_le (ih h)

/-- Each end is there once for each place of its association. -/
theorem nodup_sidesFrom (place : Nat) (r : Repository) : (sidesFrom place r).Nodup := by
  induction r generalizing place with
  | nil => exact .nil
  | cons x rest ih =>
    cases x with
    | directed kind name source target => exact ih (place + 1)
    | association name end1 end2 =>
      have later {side : AssociationSide} (h : side.place = place) :
          side ∉ sidesFrom (place + 1) rest := by
        intro hmem
        have := place_le_of_mem_sidesFrom hmem
        omega
      refine List.nodup_cons.mpr ⟨?_, List.nodup_cons.mpr ⟨later rfl, ih (place + 1)⟩⟩
      rw [List.mem_cons, not_or]
      exact ⟨by simp, later rfl⟩

/-- The far end, if it is a member of an element. -/
def farMember (m : Model) (id near far : ElementId) : List ElementId :=
  if m.standsAt? near == some id && m.isNavigable far then [far] else []

/-- Neither end of an association is a member of an element that it does not involve. -/
theorem farMember_of_not_involved {m : Model} {id end1 end2 : ElementId} {name : Value}
    (h : (Relationship.association name end1 end2).involves m id = .ok false) :
    farMember m id end1 end2 = [] ∧ farMember m id end2 end1 = [] := by
  obtain ⟨first, hfirst, h⟩ := Outcome.bind_eq_ok.mp h
  split at h
  · cases h
  · rename_i notFirst
    obtain ⟨second, hsecond, h⟩ := Outcome.bind_eq_ok.mp h
    have notFirst := (Bool.not_eq_true _).mp notFirst
    have notSecond := Except.ok.inj h
    rw [farMember, farMember, Model.standsAt?_eq hfirst, Model.standsAt?_eq hsecond, notFirst,
      notSecond]
    exact ⟨rfl, rfl⟩

/-- The members of an element are read off the associations that involve it. -/
theorem flatMap_farMember {r : Repository} {m : Model} {id : ElementId}
    (answers : r.answers m id = true) (place : Nat) :
    (r.filterMap (Relationship.endsAt? m id)).flatMap
        (fun ends => farMember m id ends.1 ends.2 ++ farMember m id ends.2 ends.1) =
      ((sidesFrom place r).filter (·.isMemberOf m id)).map AssociationSide.far := by
  induction r generalizing place with
  | nil => rfl
  | cons x rest ih =>
    rw [Repository.answers, List.all_cons, Bool.and_eq_true] at answers
    obtain ⟨answered, answers⟩ := answers
    have ih := ih answers (place + 1)
    cases x with
    | directed kind name source target => exact ih
    | association name end1 end2 =>
      have both : (([⟨place, true, end1, end2⟩, ⟨place, false, end2, end1⟩] :
          List AssociationSide).filter (·.isMemberOf m id)).map AssociationSide.far =
          farMember m id end1 end2 ++ farMember m id end2 end1 := by
        simp only [farMember, AssociationSide.isMemberOf, List.filter_cons, List.filter_nil]
        split <;> split <;> rfl
      have split_sides : ((sidesFrom place (.association name end1 end2 :: rest)).filter
          (·.isMemberOf m id)).map AssociationSide.far =
          (farMember m id end1 end2 ++ farMember m id end2 end1) ++
            ((sidesFrom (place + 1) rest).filter (·.isMemberOf m id)).map AssociationSide.far := by
        rw [← both, ← List.map_append, ← List.filter_append]
        rfl
      rw [split_sides]
      cases hx : (Relationship.association name end1 end2).involves m id with
      | error fault =>
        rw [hx] at answered
        cases answered
      | ok involved =>
        cases involved with
        | true =>
          have ends : Relationship.endsAt? m id (.association name end1 end2) = some (end1, end2) := by
            rw [Relationship.endsAt?, hx]
            rfl
          rw [List.filterMap_cons_some ends, List.flatMap_cons, ih]
        | false =>
          have ends : Relationship.endsAt? m id (.association name end1 end2) = none := by
            rw [Relationship.endsAt?, hx]
            rfl
          obtain ⟨first, second⟩ := farMember_of_not_involved hx
          rw [List.filterMap_cons_none ends, ih, first, second, List.nil_append, List.nil_append]

end Repository

/-! ## Members in a declaration -/

namespace Declaration

variable {r : Repository} {g : GosuSettings} {m : Model} {id : ElementId} {s : Script}

/-- Variables for some elements, each followed by an empty line. -/
def Variables (g : GosuSettings) (m : Model) (ids : List ElementId) (s : Script) : Prop :=
  ∃ fs, s = spaced fs ∧ List.Forall₂ (Member.WrittenVariable g m) ids fs

theorem Variables.nil : Variables g m [] [] := ⟨[], rfl, .nil⟩

theorem Variables.append {ids ids' : List ElementId} {s' : Script} (h : Variables g m ids s)
    (h' : Variables g m ids' s') : Variables g m (ids ++ ids') (s ++ s') := by
  obtain ⟨fs, rfl, written⟩ := h
  obtain ⟨fs', rfl, written'⟩ := h'
  exact ⟨fs ++ fs', (spaced_append fs fs').symm, List.rel_append written written'⟩

theorem Variables.flatten {α : Type} {of : α → List ElementId} {xs : List α} {scripts : List Script}
    (h : List.Forall₂ (fun x t => Variables g m (of x) t) xs scripts) :
    Variables g m (xs.flatMap of) scripts.flatten := by
  induction h with
  | nil => exact .nil
  | cons first _ ih =>
    rw [List.flatMap_cons, List.flatten_cons]
    exact first.append ih

theorem forEach_stays (ids : List ElementId) :
    StaysIn m (Variables g m ids) (forEach (Member.variableFor g) ids) := by
  refine (StaysIn.forall₂ fun id _ => ?_).bind fun scripts written => .pure ⟨scripts, rfl, written⟩
  exact .look (.after fun e he => Model.read_eq_ok he ▸ Member.variableFor_stays id)

theorem farVariable_stays (near far : ElementId) :
    StaysIn m (Variables g m (Repository.farMember m id near far)) (farVariable g id near far) := by
  refine .look (.after fun reference hr => ?_)
  rw [Repository.farMember, Model.standsAt?_eq hr]
  by_cases here : reference = some id
  · rw [here, bne_self_eq_false, beq_self_eq_true, Bool.true_and, Model.isNavigable]
    rw [if_neg Bool.false_ne_true]
    cases hn : (m.get far).navigable? with
    | none => exact .throw _
    | some navigable =>
      rw [Option.any_some]
      dsimp only
      split
      · exact forEach_stays [far]
      · exact .pure .nil
  · have elsewhere : (reference == some id) = false := beq_eq_false_iff_ne.mpr here
    rw [bne, elsewhere, Bool.false_and]
    exact .pure .nil

/-- The members of an element from its associations, in the order of the repository. -/
theorem associationMembers_stays :
    StaysIn m (Variables g m ((r.sides.filter (·.isMemberOf m id)).map AssociationSide.far))
      (associationMembers r g id) := by
  refine .look (.after fun associations ha => ?_)
  rw [Repository.associations_eq] at ha
  split at ha
  · rename_i answers
    rw [← Except.ok.inj ha, Repository.sides, ← Repository.flatMap_farMember answers 0]
    refine (StaysIn.forall₂ fun ends _ => ?_).bind fun scripts written => .pure (.flatten written)
    refine StaysIn.bind (farVariable_stays ends.1 ends.2) fun _ h => ?_
    exact StaysIn.bind (farVariable_stays ends.2 ends.1) fun _ h' => .pure (h.append h')
  · cases ha

/-- The members of a declaration: the attributes, then the ends. -/
theorem members_stays (form : DeclarationForm) :
    StaysIn m (fun s => ∃ attributes ends, s = spaced (attributes ++ ends) ∧
        List.Forall₂ (Member.WrittenVariable g m) (m.attributesOf id) attributes ∧
        List.Forall₂ (Member.WrittenVariable g m)
          ((r.memberEnds m form id).map AssociationSide.far) ends)
      (members r g id form.takesEnds) := by
  refine .look (.after fun attributes ha => ?_)
  rw [← Members.given_eq_ok ha]
  refine (forEach_stays _).bind fun own ⟨attributes, ho, written⟩ => ?_
  rw [Repository.memberEnds]
  dsimp only
  split
  · refine associationMembers_stays.bind fun others ⟨ends, he, written'⟩ => .pure ?_
    exact ⟨attributes, ends, by rw [ho, he, spaced_append], written, written'⟩
  · refine (StaysIn.pure (p := (· = [])) rfl).bind fun others he => .pure ?_
    exact ⟨attributes, [], by rw [ho, he, List.append_nil, List.append_nil], written, .nil⟩

end Declaration

end GosuForge
