import GosuForge.Proofs.Inspection
import Mathlib.Logic.Relation

/-!
# The tree that an element owns

* `Model.ownedBy`: the elements that an element owns, and `Model.Below` all that is in its tree;
* `Model.walk_succ_eq`: a walk without a fault meets an element, and then all that is met from those
  that it owns;
* `Model.Spans`: the elements below a root, each of them once and of a kind of its own.
-/

namespace GosuForge

namespace Members

theorem given_eq_ok {ms : Option Members} {ids : List ElementId} (h : given ms = .ok ids) :
    (ms.bind ids?).getD [] = ids := by
  cases ms with
  | none => cases h
  | some ms =>
    rw [given] at h
    split at h
    · rename_i found hf
      cases h
      rw [Option.bind_some, hf]
      rfl
    · cases h

theorem orNone_eq_ok {ms : Option Members} {ids : List ElementId} (h : orNone ms = .ok ids) :
    (ms.bind ids?).getD [] = ids := by
  cases ms with
  | none =>
    cases h
    rfl
  | some ms => exact given_eq_ok h

end Members

namespace Model

/-- The elements that an element owns; none where it has no list of them. -/
def ownedBy (m : Model) (id : ElementId) : List ElementId :=
  ((m.get id).owned?.bind Members.ids?).getD []

/-- What is owned by an element, by what it owns, and so on, and the element itself. -/
def Below (m : Model) : ElementId → ElementId → Prop :=
  Relation.ReflTransGen fun id child => child ∈ m.ownedBy id

theorem orNone_eq_ok {m : Model} {id : ElementId} {owned : List ElementId}
    (h : Members.orNone (m.get id).owned? = .ok owned) : m.ownedBy id = owned :=
  Members.orNone_eq_ok h

theorem ownedBy_of_given {m : Model} {id : ElementId} {owned : List ElementId}
    (h : Members.given (m.get id).owned? = .ok owned) : m.ownedBy id = owned :=
  Members.given_eq_ok h

/-- A package has a list of what it owns. -/
theorem given_of_isPackage {m : Model} {id : ElementId} {owned : List ElementId}
    (hp : (m.get id).isPackage = true) (h : Members.orNone (m.get id).owned? = .ok owned) :
    Members.given (m.get id).owned? = .ok (m.ownedBy id) := by
  obtain ⟨ms, hms⟩ : ∃ ms, (m.get id).owned? = some ms := by
    rw [Element.isPackage] at hp
    rw [Element.owned?, Element.members?]
    split at hp
    · rename_i hc
      rw [hc]
      cases List.lookup "owned_elements" (m.get id).further <;> exact ⟨_, rfl⟩
    · cases hp
  rw [orNone_eq_ok h]
  rw [hms] at h ⊢
  exact h

theorem walkAll_of_none {walk : ElementId → List ElementId × Option Fault} {ids : List ElementId}
    (h : ∀ id ∈ ids, (walk id).2 = none) :
    walkAll walk ids = (ids.flatMap fun id => (walk id).1, none) := by
  induction ids with
  | nil => rfl
  | cons id rest ih =>
    obtain ⟨hid, hrest⟩ := List.forall_mem_cons.mp h
    rcases hw : walk id with ⟨met, fault⟩
    rw [hw] at hid
    cases hid
    simp [walkAll, hw, ih hrest]

theorem none_of_walkAll {walk : ElementId → List ElementId × Option Fault} {ids : List ElementId}
    (h : (walkAll walk ids).2 = none) : ∀ id ∈ ids, (walk id).2 = none := by
  induction ids with
  | nil => exact fun id hid => absurd hid List.not_mem_nil
  | cons id rest ih =>
    rcases hw : walk id with ⟨met, fault | fault⟩
    · exact List.forall_mem_cons.mpr ⟨by rw [hw], ih (by simpa [walkAll, hw] using h)⟩
    · simp [walkAll, hw] at h

/-- A walk without a fault meets an element, and then all that is met from those that it owns. -/
theorem walk_succ_eq {m : Model} {fuel : Nat} {id : ElementId} {ids : List ElementId} :
    m.walk (fuel + 1) id = (ids, none) ↔
      (∃ owned, Members.orNone (m.get id).owned? = .ok owned) ∧
        (∀ child ∈ m.ownedBy id, (m.walk fuel child).2 = none) ∧
        ids = id :: (m.ownedBy id).flatMap fun child => (m.walk fuel child).1 := by
  rw [walk]
  constructor
  · intro h
    split at h
    · cases h
    · rename_i owned ho
      rcases hw : walkAll (walk m fuel) owned with ⟨met, fault⟩
      rw [hw] at h
      cases h
      have children := none_of_walkAll (congrArg Prod.snd hw)
      rw [walkAll_of_none children] at hw
      cases hw
      rw [orNone_eq_ok ho]
      exact ⟨⟨owned, ho⟩, children, rfl⟩
  · rintro ⟨⟨owned, ho⟩, children, rfl⟩
    rw [orNone_eq_ok ho] at children
    rw [ho, orNone_eq_ok ho]
    simp [walkAll_of_none children]

theorem elementsBelow_eq_ok {m : Model} {id : ElementId} {ids : List ElementId} :
    m.elementsBelow id = .ok ids ↔ m.walk m.depth id = (ids, none) := by
  rw [elementsBelow]
  rcases m.walk m.depth id with ⟨met, fault | fault⟩ <;> simp

theorem read_eq_ok {m : Model} {id : ElementId} {e : Element} (h : m.read id = .ok e) :
    e = m.get id := by
  rw [read] at h
  split at h
  · cases h
  · cases h
    rfl

/-- What is an element of its own kind and named by a text. -/
structure IsProper (m : Model) (id : ElementId) : Prop where
  read_eq : m.read id = .ok (m.get id)
  kind : (m.get id).hasOwnKind = true
  text : ∃ name, (m.get id).name = .str name

/-- The elements `ids` are those below `root`, each of them once, and all of them are proper. -/
structure Spans (m : Model) (root : ElementId) (ids : List ElementId) : Prop where
  below : m.elementsBelow root = .ok ids
  once : ids.Nodup
  proper : ∀ id ∈ ids, m.IsProper id

theorem Spans.walk_eq {m : Model} {root : ElementId} {ids : List ElementId} (h : m.Spans root ids) :
    m.walk m.depth root = (ids, none) :=
  elementsBelow_eq_ok.mp h.below

end Model

end GosuForge
