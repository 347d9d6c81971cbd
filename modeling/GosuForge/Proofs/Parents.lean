import GosuForge.Proofs.Resolution
import Mathlib.Data.List.Perm.Subperm

/-!
# Parents of what elements list

An element of a loaded model lists attributes, operations and literals and owns other elements; an
operation lists parameters. Each of them has that element as its parent and is numbered behind it, so
that the way up from anything that the root contains ends at the root.

* `Model.listedBy`, `Model.Contains`: what an element lists, and what is listed below a root;
* `Model.IsParent`: an element is the parent of all that it lists;
* `Draft.isParent_of_within`: every element of a placed draft is;
* `Model.ClimbsTo`: the way up from an element, and where it ends;
* `Model.ClimbsTo.exists_split`, `Model.ClimbsTo.nodup`: the way up, cut at an element on it;
* `LoadedModel.ReadFrom.isParent`, `LoadedModel.ReadFrom.climbsTo`: both for loaded models.
-/

namespace GosuForge

/-- The lists of an element, one after the other. -/
def Content.listed : Content → List ElementId
  | .package owned => owned
  | .classifier body =>
    body.attributes ++ body.operations ++
      (if body.sort = .enumeration then body.literals else []) ++ body.owned
  | .operation parameters => parameters
  | _ => []

namespace Model

variable {m : Model} {id : ElementId}

/-- What an element lists: attributes, operations, parameters, literals, and what it owns. -/
def listedBy (m : Model) (id : ElementId) : List ElementId :=
  m.attributesOf id ++ m.operationsOf id ++ m.parametersOf id ++ m.literalsOf id ++ m.ownedBy id

/-- What is listed by an element, by what it lists, and so on, and the element itself. -/
def Contains (m : Model) : ElementId → ElementId → Prop :=
  Relation.ReflTransGen fun id child => child ∈ m.listedBy id

theorem listedBy_of_place {heading : Heading} {parent : Option ElementId} {content : Content}
    (h : m.get id = heading.place parent content) : m.listedBy id = content.listed := by
  rw [listedBy, attributesOf, operationsOf, parametersOf, literalsOf, ownedBy, h]
  cases content with
  | classifier body =>
    by_cases hs : body.sort = .enumeration
    · simp [Heading.place, Content.listed, Element.attributes?, Element.operations?,
        Element.literals?, Element.owned?, Element.members?, Members.ids?, hs]
    · simp [Heading.place, Content.listed, Element.attributes?, Element.operations?,
        Element.literals?, Element.owned?, Element.members?, Members.ids?, hs]
  | operation parameters =>
    simp [Heading.place, Content.listed, Element.attributes?, Element.operations?,
      Element.literals?, Element.owned?, Element.members?]
  | _ => rfl

/-- An element is the parent of all that it lists, which is numbered behind it in order. -/
structure IsParent (m : Model) (id : ElementId) : Prop where
  ascending : (id :: m.listedBy id).Pairwise (· < ·)
  parent : ∀ child ∈ m.listedBy id, (m.get child).parent = some id

theorem isParent_of_nothing (h : m.listedBy id = []) : m.IsParent id := by
  refine ⟨?_, ?_⟩
  · rw [h]
    exact List.pairwise_singleton _ id
  · rw [h]
    exact nofun

/-- A member without members of its own. -/
theorem isParent_of_place {heading : Heading} {parent : Option ElementId} {content : Content}
    (h : m.get id = heading.place parent content) (nothing : content.listed = []) :
    m.IsParent id :=
  isParent_of_nothing ((listedBy_of_place h).trans nothing)

end Model

/-! ## Numbers of drafts -/

namespace Draft

theorem within_add {first size size' n : Nat} :
    Within first (size + size') n ↔ Within first size n ∨ Within (first + size) size' n := by
  unfold Within
  omega

theorem within_one {first n : Nat} : Within first 1 n ↔ n = first := by
  unfold Within
  omega

theorem not_within_zero {first n : Nat} : ¬ Within first 0 n := by
  unfold Within
  omega

/-- Numbers in ascending order among the `size` numbers from `first` on. -/
structure Ascends (first size : Nat) (ids : List ElementId) : Prop where
  within : ∀ id ∈ ids, Within first size id
  ascending : ids.Pairwise (· < ·)

namespace Ascends

variable {first size size' : Nat} {ids ids' : List ElementId}

theorem nil : Ascends first size [] := ⟨nofun, .nil⟩

theorem append (h : Ascends first size ids) (h' : Ascends (first + size) size' ids') :
    Ascends first (size + size') (ids ++ ids') := by
  refine ⟨List.forall_mem_append.mpr ⟨fun id hid => (h.within id hid).left,
    fun id hid => (h'.within id hid).right⟩, List.pairwise_append.mpr ⟨h.ascending, h'.ascending, ?_⟩⟩
  exact fun id hid id' hid' => Nat.lt_of_lt_of_le (h.within id hid).2 (h'.within id' hid').1

/-- The first of some numbers. -/
theorem single (pos : 0 < size) : Ascends first size [first] := by
  refine ⟨fun id hid => ?_, List.pairwise_singleton _ first⟩
  rw [List.mem_singleton.mp hid]
  exact ⟨Nat.le_refl first, Nat.lt_add_of_pos_right pos⟩

theorem range' : Ascends first size (List.range' first size) :=
  ⟨fun _ hid => List.mem_range'_1.mp hid, List.pairwise_lt_range'⟩

theorem numbers (ds : List Draft) : Ascends first (sizeAll ds) (numbers first ds) := by
  induction ds generalizing first with
  | nil => exact nil
  | cons d rest ih =>
    obtain ⟨heading, id, body, children⟩ := d
    have pos : 0 < (node heading id body children).size := by
      rw [size]
      omega
    rw [Draft.numbers, sizeAll]
    exact (single pos).append ih

theorem operations (os : List DraftOperation) :
    Ascends first (DraftOperation.sizeAll os) (DraftOperation.numbers first os) := by
  induction os generalizing first with
  | nil => exact nil
  | cons o rest ih =>
    have pos : 0 < o.size := by
      rw [DraftOperation.size]
      omega
    rw [DraftOperation.numbers, DraftOperation.sizeAll]
    exact (single pos).append ih

end Ascends

end Draft

open Draft (Within Ascends)

/-! ## Elements of placed drafts -/

/-- An element among those that a model holds. -/
theorem Model.Holds.get_mem {m : Model} {next id : ElementId} {elements : List Element}
    (h : m.Holds next elements) (within : Within next elements.length id) :
    m.get id ∈ elements := by
  obtain ⟨k, rfl⟩ := Nat.le.dest within.1
  have hk : k < elements.length := Nat.lt_of_add_lt_add_left within.2
  rw [h k elements[k] (List.getElem?_eq_getElem hk)]
  exact List.getElem_mem hk

namespace DraftOperation

variable {m : Model} {resolve : Resolver} {owner : ElementId}

/-- An operation, and its parameters. -/
theorem isParent_of_within {o : DraftOperation} {next id : ElementId}
    (h : m.Holds next (o.place resolve owner next)) (within : Within next o.size id) :
    m.IsParent id := by
  obtain ⟨hget, hparameters⟩ := Model.holds_cons.mp h
  rcases Draft.within_add.mp within with here | inside
  · obtain rfl := Draft.within_one.mp here
    have listed := Model.listedBy_of_place hget
    refine ⟨?_, fun child hc => ?_⟩
    · rw [listed]
      exact ((Ascends.single Nat.one_pos).append .range').ascending
    · rw [listed] at hc
      have place := hparameters.get_mem (by simpa using Ascends.range'.within child hc)
      obtain ⟨p, -, hp⟩ := List.mem_map.mp place
      rw [← hp]
      rfl
  · obtain ⟨p, -, hp⟩ := List.mem_map.mp (hparameters.get_mem (by simpa using inside))
    exact Model.isParent_of_place hp.symm rfl

theorem isParent_of_withinAll {os : List DraftOperation} {next id : ElementId}
    (h : m.Holds next (placeAll resolve owner next os)) (within : Within next (sizeAll os) id) :
    m.IsParent id := by
  induction os generalizing next with
  | nil => exact absurd within Draft.not_within_zero
  | cons o rest ih =>
    rw [placeAll, Model.holds_append, length_place] at h
    rcases Draft.within_add.mp within with first | others
    · exact isParent_of_within h.1 first
    · exact ih h.2 others

end DraftOperation

namespace DraftClassifier

variable {m : Model} {resolve : Resolver} {owner next : ElementId} {c : DraftClassifier}

/-- The parts of a placed classifier. -/
theorem holds_place : m.Holds next (c.place resolve owner next) ↔
    (m.Holds next (c.attributes.map fun a =>
        a.heading.place (some owner) (.attribute (a.typing.place resolve))) ∧
      m.Holds (next + c.attributes.length)
        (DraftOperation.placeAll resolve owner (next + c.attributes.length) c.operations)) ∧
      m.Holds (next + c.attributes.length + c.operationsSize)
        (c.literals.map fun h => h.place (some owner) .literal) := by
  rw [place, Model.holds_append, Model.holds_append, List.length_append, List.length_map,
    DraftOperation.length_placeAll, operationsSize, Nat.add_assoc]

theorem isParent_of_within (h : m.Holds next (c.place resolve owner next)) {id : ElementId}
    (within : Within next c.size id) : m.IsParent id := by
  obtain ⟨⟨hattributes, hoperations⟩, hliterals⟩ := holds_place.mp h
  rw [size, Draft.within_add, Draft.within_add, ← Nat.add_assoc] at within
  rcases within with (within | within) | within
  · obtain ⟨a, -, ha⟩ := List.mem_map.mp (hattributes.get_mem (by simpa using within))
    exact Model.isParent_of_place ha.symm rfl
  · exact DraftOperation.isParent_of_withinAll hoperations within
  · obtain ⟨l, -, hl⟩ := List.mem_map.mp (hliterals.get_mem (by simpa using within))
    exact Model.isParent_of_place hl.symm rfl

/-- The numbers of attributes, operations and literals that stand one after the other from `next` on. -/
def members (next : ElementId) (c : DraftClassifier) : List ElementId :=
  List.range' next c.attributes.length ++
    DraftOperation.numbers (next + c.attributes.length) c.operations ++
    List.range' (next + c.attributes.length + c.operationsSize) c.literals.length

theorem ascends_members : Ascends next c.size (c.members next) := by
  have literals : Ascends (next + (c.attributes.length + c.operationsSize)) c.literals.length
      (List.range' (next + c.attributes.length + c.operationsSize) c.literals.length) := by
    rw [← Nat.add_assoc]
    exact .range'
  exact (Ascends.range'.append (.operations c.operations)).append literals

/-- All members of a classifier have it as their parent. -/
theorem parent_eq (h : m.Holds next (c.place resolve owner next)) {child : ElementId}
    (hc : child ∈ c.members next) : (m.get child).parent = some owner := by
  obtain ⟨⟨hattributes, hoperations⟩, hliterals⟩ := holds_place.mp h
  rw [members, List.mem_append, List.mem_append] at hc
  rcases hc with (hc | hc) | hc
  · have within := Ascends.range'.within child hc
    obtain ⟨a, -, ha⟩ := List.mem_map.mp (hattributes.get_mem (by simpa using within))
    rw [← ha]
    rfl
  · have placed := DraftOperation.holds_placeAll.mp hoperations
    obtain ⟨o, -, ho⟩ := Outcome.exists_of_forall₂ placed.flip child hc
    rw [(Model.holds_cons.mp ho).1]
    rfl
  · have within := Ascends.range'.within child hc
    obtain ⟨l, -, hl⟩ := List.mem_map.mp (hliterals.get_mem (by simpa using within))
    rw [← hl]
    rfl

end DraftClassifier

namespace DraftBody

variable {m : Model} {resolve : Resolver} {owner next : ElementId} {b : DraftBody}

def members (next : ElementId) : DraftBody → List ElementId
  | classifier c => c.members next
  | _ => []

/-- Only an enumeration lists the literals that it was given. -/
theorem listed_sublist (owned : List ElementId) :
    (b.content next owned).listed.Sublist (b.members next ++ owned) := by
  cases b with
  | plain => exact List.nil_sublist _
  | package => exact List.Sublist.refl _
  | classifier c =>
    rw [content, Content.listed, members, DraftClassifier.members, DraftClassifier.body]
    dsimp only
    refine List.Sublist.append (List.Sublist.append (List.Sublist.refl _) ?_) (List.Sublist.refl _)
    split
    · exact List.Sublist.refl _
    · exact List.nil_sublist _

theorem ascends_members : Ascends next b.size (b.members next) := by
  cases b with
  | classifier c => exact c.ascends_members
  | _ => exact .nil

theorem parent_eq (h : m.Holds next (b.place resolve owner next)) {child : ElementId}
    (hc : child ∈ b.members next) : (m.get child).parent = some owner := by
  cases b with
  | classifier c => exact c.parent_eq h hc
  | _ => cases hc

theorem isParent_of_within (h : m.Holds next (b.place resolve owner next)) {id : ElementId}
    (within : Within next b.size id) : m.IsParent id := by
  cases b with
  | classifier c => exact c.isParent_of_within h within
  | _ => exact absurd within Draft.not_within_zero

end DraftBody

namespace Draft

variable {m : Model} {resolve : Resolver}

theorem PlacedAt.parent_eq {parent : Option ElementId} {next : ElementId} {d : Draft}
    (h : d.PlacedAt resolve m parent next) : (m.get next).parent = parent := by
  obtain ⟨heading, id, body, children⟩ := d
  rw [(placedAt_node.mp h).1]
  rfl

/-- A node is the parent of its members and of the drafts below it. -/
theorem isParent_of_placedAt {parent : Option ElementId} {next : ElementId} {heading : Heading}
    {id : Value} {body : DraftBody} {children : List Draft}
    (h : (node heading id body children).PlacedAt resolve m parent next) : m.IsParent next := by
  obtain ⟨hget, hbody, hchildren⟩ := placedAt_node.mp h
  have listed : (m.listedBy next).Sublist
      (body.members (next + 1) ++ numbers (next + 1 + body.size) children) := by
    rw [Model.listedBy_of_place hget]
    exact body.listed_sublist _
  refine ⟨?_, fun child hc => ?_⟩
  · have ascends : Ascends (next + 1) (body.size + sizeAll children) _ :=
      body.ascends_members.append (.numbers children)
    exact ((Ascends.single Nat.one_pos).append ascends).ascending.sublist (listed.cons_cons next)
  · rcases List.mem_append.mp (listed.subset hc) with member | owned
    · exact body.parent_eq hbody member
    · obtain ⟨d, -, hd⟩ := Outcome.exists_of_forall₂ hchildren.flip child owned
      exact PlacedAt.parent_eq hd

mutual

/-- Every element of a placed draft is the parent of what it lists. -/
theorem isParent_of_within : ∀ (d : Draft) {parent : Option ElementId} {next : ElementId},
    d.PlacedAt resolve m parent next → ∀ id, Within next d.size id → m.IsParent id
  | node heading _ body children, parent, next, h, id, within => by
    rw [size, within_add, within_add, ← Nat.add_assoc] at within
    obtain ⟨-, hbody, hchildren⟩ := placedAt_node.mp h
    rcases within with (here | member) | below
    · rw [within_one.mp here]
      exact isParent_of_placedAt h
    · exact body.isParent_of_within hbody member
    · exact isParent_of_withinAll children hchildren id below

theorem isParent_of_withinAll : ∀ (ds : List Draft) {parent : Option ElementId}
    {next : ElementId},
    List.Forall₂ (fun d n => d.PlacedAt resolve m parent n) ds (numbers next ds) →
      ∀ id, Within next (sizeAll ds) id → m.IsParent id
  | [], _, _, _, _, within => absurd within not_within_zero
  | d :: rest, parent, next, h, id, within => by
    rw [numbers, List.forall₂_cons] at h
    rw [sizeAll, within_add] at within
    rcases within with first | others
    · exact isParent_of_within d h.1 id first
    · exact isParent_of_withinAll rest h.2 id others

end

end Draft

/-! ## The way up -/

namespace Model

variable {m : Model} {root id : ElementId}

/-- The way up from an element, parent by parent, to a root that has no parent. -/
inductive ClimbsTo (m : Model) (root : ElementId) : ElementId → List ElementId → Prop
  | root : (m.get root).parent = none → ClimbsTo m root root []
  | step {id parent : ElementId} {outer : List ElementId} : (m.get id).parent = some parent →
      ClimbsTo m root parent outer → ClimbsTo m root id (parent :: outer)

/-- Looking upwards finds the whole way if it is allowed as many steps. -/
theorem ClimbsTo.ancestorsFrom_eq {outer : List ElementId} (h : m.ClimbsTo root id outer)
    {fuel : Nat} (hf : outer.length ≤ fuel) :
    m.ancestorsFrom (m.get id).parent fuel = outer := by
  induction h generalizing fuel with
  | root none =>
    rw [none]
    cases fuel <;> rfl
  | step hp _ ih =>
    cases fuel with
    | zero => exact absurd hf (Nat.not_succ_le_zero _)
    | succ fuel => rw [hp, ancestorsFrom, ih (Nat.le_of_succ_le_succ hf)]

/-- An element that is known to have a parent is in the model. -/
theorem lt_size_of_parent {parent : ElementId} (h : (m.get id).parent = some parent) :
    id < m.size := by
  by_contra outside
  rw [get_of_size_le (Nat.le_of_not_lt outside)] at h
  cases h

namespace ClimbsTo

variable {top : ElementId} {outer : List ElementId}

/-- The way up goes on from each element on it. -/
theorem exists_split (h : m.ClimbsTo root id outer) {x : ElementId} (hx : x ∈ id :: outer) :
    ∃ before after, id :: outer = before ++ x :: after ∧ m.ClimbsTo root x after := by
  induction h with
  | root none =>
    obtain rfl := List.mem_singleton.mp hx
    exact ⟨[], [], rfl, .root none⟩
  | @step id parent outer up way ih =>
    rcases List.mem_cons.mp hx with rfl | hx
    · exact ⟨[], _, rfl, .step up way⟩
    · obtain ⟨before, after, split, rest⟩ := ih hx
      exact ⟨id :: before, after, by rw [split, List.cons_append], rest⟩

/-- There is one way up. -/
theorem unique {outer' : List ElementId} (h : m.ClimbsTo root id outer)
    (h' : m.ClimbsTo top id outer') : outer = outer' := by
  induction h generalizing outer' with
  | root none =>
    cases h' with
    | root _ => rfl
    | step up _ =>
      rw [none] at up
      cases up
  | step up _ ih =>
    cases h' with
    | root none =>
      rw [none] at up
      cases up
    | step up' rest =>
      rw [up] at up'
      cases up'
      rw [ih rest]

/-- The way up never comes back to an element. -/
theorem nodup (h : m.ClimbsTo root id outer) : (id :: outer).Nodup := by
  induction h with
  | root _ => exact List.pairwise_singleton _ _
  | @step id parent outer up way ih =>
    refine List.nodup_cons.mpr ⟨fun around => ?_, ih⟩
    obtain ⟨before, after, split, rest⟩ := way.exists_split around
    -- From there on it would be as long as the whole.
    have shorter := congrArg List.length split
    rw [rest.unique (.step up way), List.length_append, List.length_cons, List.length_cons,
      List.length_cons] at shorter
    omega

/-- All on the way up have parents but for the last, and each of them is met once. -/
theorem length_le (h : m.ClimbsTo root id outer) : outer.length ≤ m.size := by
  have inside : ∀ x ∈ (id :: outer).dropLast, x < m.size := by
    induction h with
    | root _ => exact nofun
    | step up _ ih =>
      rw [List.dropLast_cons_cons]
      exact List.forall_mem_cons.mpr ⟨lt_size_of_parent up, ih⟩
  have few := (List.subperm_of_subset (h.nodup.sublist (List.dropLast_sublist _)) fun x hx =>
    List.mem_range.mpr (inside x hx)).length_le
  rwa [List.length_dropLast, List.length_cons, List.length_range] at few

theorem ancestors_eq (h : m.ClimbsTo root id outer) : m.ancestors id = outer :=
  h.ancestorsFrom_eq h.length_le

end ClimbsTo

/-- From all that a root contains the way up goes through what it contains, and ends at the root. -/
theorem climbsTo_of_contains
    (parents : ∀ owner, m.Contains root owner → ∀ child ∈ m.listedBy owner,
      (m.get child).parent = some owner)
    (top : (m.get root).parent = none) (h : m.Contains root id) :
    m.ClimbsTo root id (m.ancestors id) ∧ ∀ x ∈ m.ancestors id, m.Contains root x := by
  suffices way : ∃ outer, m.ClimbsTo root id outer ∧ ∀ x ∈ outer, m.Contains root x by
    obtain ⟨outer, climbs, inside⟩ := way
    rw [climbs.ancestors_eq]
    exact ⟨climbs, inside⟩
  induction h with
  | refl => exact ⟨[], .root top, nofun⟩
  | @tail id child contains listed ih =>
    obtain ⟨outer, climbs, inside⟩ := ih
    exact ⟨id :: outer, .step (parents id contains child listed) climbs,
      List.forall_mem_cons.mpr ⟨contains, inside⟩⟩

end Model

/-! ## Loaded models -/

namespace Model

/-- Nothing is listed by what is numbered from `k` on. -/
def ListsNothingFrom (m : Model) (k : Nat) : Prop := ∀ id, k ≤ id → m.listedBy id = []

theorem listsNothing_size (m : Model) : m.ListsNothingFrom m.size := by
  intro id outside
  rw [listedBy, attributesOf, operationsOf, parametersOf, literalsOf, ownedBy,
    get_of_size_le outside]
  rfl

theorem listedBy_congr {m m' : Model} {id : ElementId} (h : m'.get id = m.get id) :
    m'.listedBy id = m.listedBy id := by
  simp only [listedBy, attributesOf, operationsOf, parametersOf, literalsOf, ownedBy, h]

theorem ListsNothingFrom.push {m : Model} {k : Nat} (h : m.ListsNothingFrom k)
    {heading : Heading} {parent : Option ElementId} {content : Content}
    (nothing : content.listed = []) :
    (m.push (heading.place parent content)).ListsNothingFrom k := by
  intro id hk
  rcases Nat.lt_trichotomy id m.size with before | rfl | behind
  · rw [listedBy_congr ((extends_push m _).2 id before), h id hk]
  · exact (listedBy_of_place (get_push m _)).trans nothing
  · refine listsNothing_size _ id ?_
    simpa [Model.push, size] using Nat.succ_le_of_lt behind

end Model

namespace LoadedModel

theorem listsNothing_push {index : ReferenceIndex} {m : Model} {part : Value} {e : Element} {k : Nat}
    (nothing : m.ListsNothingFrom k) (h : endOf index part = .ok e) :
    (m.push e).ListsNothingFrom k := by
  obtain ⟨_, -, h⟩ := Outcome.bind_eq_ok.mp h
  obtain ⟨heading, -, h⟩ := Outcome.bind_eq_ok.mp h
  split at h
  · cases h
  · obtain ⟨_, -, h⟩ := Outcome.bind_eq_ok.mp h
    cases h
    exact nothing.push rfl

variable {document : Value} {whole : Draft} {index : ReferenceIndex} {resolver : Resolver}
  {items : List Value} {loaded : LoadedModel} {es : Entries}

/-- Every element of a loaded model is the parent of what it lists. -/
theorem ReadFrom.isParent (r : ReadFrom document es whole index resolver items loaded)
    (id : ElementId) : loaded.design.model.IsParent id := by
  by_cases inside : id < whole.size
  · exact Draft.isParent_of_within whole r.placed.1 id ⟨Nat.zero_le id, by rwa [Nat.zero_add]⟩
  · have nothing := (whole.toModel resolver).listsNothing_size
    rw [Draft.size_toModel] at nothing
    have listed := addRelationships_keeps (P := fun m => m.ListsNothingFrom whole.size)
      (d := ⟨whole.toModel resolver, []⟩) (fun _ _ _ => listsNothing_push) nothing r.design_eq
    exact Model.isParent_of_nothing (listed id (Nat.le_of_not_lt inside))

theorem ReadFrom.climbsTo (r : ReadFrom document es whole index resolver items loaded)
    {id : ElementId} (h : loaded.design.model.Contains loaded.root id) :
    loaded.design.model.ClimbsTo loaded.root id (loaded.design.model.ancestors id) := by
  have top := r.placed.1.parent_eq
  rw [← r.root_eq] at top
  exact (Model.climbsTo_of_contains (fun owner _ => (r.isParent owner).parent) top h).1

end LoadedModel

end GosuForge
