import GosuForge.Model.Field
import GosuForge.Proofs.Inspection
import GosuForge.Proofs.Resolution

/-!
# Adding parts to elements

One call makes an element a part of another one: it stands at the end of one of the owner's lists, and
the owner is its parent, whatever it was a part of before.

* `Model.partsOf`: what stands in the lists of an owner;
* `Content.exists_takes`: the list that takes a part, and the owner with it;
* `Model.Added`, `Model.added_add`: all that one call changes;
* `Model.addAll`, `Model.Throughout`, `Model.EachCall`: calls one after the other;
* `Model.Linked.throughout_iff`: from what one call decides to what all of them do.
-/

namespace GosuForge

/-! ## The lists of an owner -/

namespace Content

/-- What an element with the content owns, beside its members. -/
def owned : Content → List ElementId
  | package owned => owned
  | classifier body => body.owned
  | _ => []

/-- The attributes and operations of an element with the content, and its literals. -/
def members : Content → List ElementId
  | classifier body =>
    body.attributes ++ body.operations ++ if body.sort = .enumeration then body.literals else []
  | _ => []

/-- Packages and classifiers have parts. -/
def takesParts : Content → Bool
  | package _ => true
  | classifier _ => true
  | _ => false

/-- The lists that parts are added to, under their names. -/
def list? : Content → String → Option (List ElementId)
  | package owned, "owned_elements" => some owned
  | classifier body, "attributes" => some body.attributes
  | classifier body, "operations" => some body.operations
  | classifier body, "literals" => if body.sort = .enumeration then some body.literals else none
  | classifier body, "owned_elements" => some body.owned
  | _, _ => none

/-- One more part, which is a member only if it has no parts itself. -/
structure Takes (c c' : Content) (child : ElementId) (owner : Bool) : Prop where
  takesParts_eq : c'.takesParts = c.takesParts
  lists : c'.members = c.members ∧ c'.owned = c.owned ++ [child] ∨
    owner = false ∧ c'.members.Perm (c.members ++ [child]) ∧ c'.owned = c.owned

def partLists : List String := ["attributes", "operations", "literals", "owned_elements"]

/-- There is a list for any part of a package or a classifier. -/
theorem exists_takes {c : Content} (takes : c.takesParts = true) (part : Content)
    (child : ElementId) :
    ∃ name ∈ partLists, ∃ ids c', Model.listFor c part = some name ∧ c.list? name = some ids ∧
      c.setField? name (.members (.list (ids ++ [child]))) = some c' ∧
      c.Takes c' child part.takesParts := by
  cases c with
  | package owned =>
    exact ⟨"owned_elements", by decide, owned, package (owned ++ [child]), rfl, rfl, rfl, rfl,
      .inl ⟨rfl, rfl⟩⟩
  | classifier body =>
    have nested : ∃ ids c', (classifier body).list? "owned_elements" = some ids ∧
        (classifier body).setField? "owned_elements" (.members (.list (ids ++ [child]))) = some c' ∧
        (classifier body).Takes c' child part.takesParts :=
      ⟨body.owned, classifier { body with owned := body.owned ++ [child] }, rfl, rfl, rfl,
        .inl ⟨rfl, rfl⟩⟩
    cases part with
    | «attribute» typing =>
      refine ⟨"attributes", by decide, body.attributes,
        classifier { body with attributes := body.attributes ++ [child] }, rfl, rfl, rfl, rfl,
        .inr ⟨rfl, ?_, rfl⟩⟩
      rw [members, members, List.perm_iff_count]
      intro id
      simp only [List.count_append]
      omega
    | operation parameters =>
      refine ⟨"operations", by decide, body.operations,
        classifier { body with operations := body.operations ++ [child] }, rfl, rfl, rfl, rfl,
        .inr ⟨rfl, ?_, rfl⟩⟩
      rw [members, members, List.perm_iff_count]
      intro id
      simp only [List.count_append]
      omega
    | literal =>
      by_cases hs : body.sort = .enumeration
      · refine ⟨"literals", by decide, body.literals,
          classifier { body with literals := body.literals ++ [child] }, ?_, ?_, ?_, rfl,
          .inr ⟨rfl, ?_, rfl⟩⟩
        · rw [Model.listFor, if_pos hs]
        · rw [list?, if_pos hs]
        · simp [setField?, Classifier.setField?, hs]
        · rw [members, members, if_pos hs, if_pos hs, List.append_assoc _ _ [child]]
      · refine ⟨"owned_elements", by decide, ?_⟩
        rw [Model.listFor, if_neg hs]
        exact nested.imp fun ids => Exists.imp fun c' found => ⟨rfl, found⟩
    | _ =>
      exact ⟨"owned_elements", by decide,
        nested.imp fun ids => Exists.imp fun c' found => ⟨rfl, found⟩⟩
  | _ => cases takes

end Content

namespace Element

/-- Nothing was put in the place of the lists of parts or of adding to them. -/
def Unaltered (e : Element) : Prop :=
  ∀ name ∈ "add" :: Content.partLists, e.further.lookup name = none

/-- A new element: it has no parent and no parts, and nothing is in the place of any. -/
structure IsFresh (e : Element) : Prop where
  parent : e.parent = none
  members : e.content.members = []
  owned : e.content.owned = []
  unaltered : e.Unaltered

variable {e : Element}

theorem Unaltered.members? (h : e.Unaltered) {name : String} (hname : name ∈ Content.partLists)
    (usual : Option (List ElementId)) : e.members? name usual = usual.map .list := by
  rw [Element.members?, h name (List.mem_cons_of_mem _ hname)]

theorem Unaltered.owned? (h : e.Unaltered) :
    e.owned? = (e.content.list? "owned_elements").map .list := by
  rw [Element.owned?, h.members? (by decide)]
  cases e.content <;> rfl

theorem Unaltered.list? (h : e.Unaltered) {name : String} (hname : name ∈ Content.partLists) :
    e.list? name = (e.content.list? name).map .list := by
  have unaltered := h.members? hname
  simp only [Content.partLists, List.mem_cons, List.not_mem_nil, or_false] at hname
  rcases hname with rfl | rfl | rfl | rfl
  · exact (unaltered _).trans (by cases e.content <;> rfl)
  · exact (unaltered _).trans (by cases e.content <;> rfl)
  · exact (unaltered _).trans (by cases e.content <;> rfl)
  · exact h.owned?

/-- Setting a list of parts changes the content and leaves nothing in its place. -/
theorem set_members {name : String} (hname : name ∈ Content.partLists) {ids : List ElementId}
    {content : Content} (h : e.content.setField? name (.members (.list ids)) = some content) :
    e.set name (.members (.list ids)) =
      { e with content, further := e.further.filter fun (other, _) => other != name } := by
  simp only [Content.partLists, List.mem_cons, List.not_mem_nil, or_false] at hname
  rcases hname with rfl | rfl | rfl | rfl <;>
    simp [set, setField?, Flags.setField?, holds, h]

theorem Unaltered.filter (h : e.Unaltered) (content : Content) (keep : String × FieldValue → Bool) :
    Unaltered { e with content, further := e.further.filter keep } := by
  intro name hname
  have absent := List.lookup_eq_none_iff.mp (h name hname)
  exact List.lookup_eq_none_iff.mpr fun entry he => absent entry (List.mem_of_mem_filter he)

/-- Elements that are made without giving them parts have none. -/
theorem isFresh_new {word : String} {content : Content} (h : Content.ofWord? word = some content) :
    (new content).IsFresh := by
  unfold Content.ofWord? at h
  split at h <;> cases h <;> exact ⟨rfl, rfl, rfl, fun _ _ => rfl⟩

/-- The list for a part of an owner, and the owner when the part is at the end of it. -/
theorem Unaltered.exists_takes (h : e.Unaltered) (takes : e.content.takesParts = true) (part : Content)
    (child : ElementId) :
    ∃ name ids e', Model.listFor e.content part = some name ∧ e.list? name = some (.list ids) ∧
      e.set name (.members (.list (ids ++ [child]))) = e' ∧ e'.parent = e.parent ∧ e'.Unaltered ∧
      e.content.Takes e'.content child part.takesParts := by
  obtain ⟨name, hname, ids, c', listFor, list, set, taken⟩ := Content.exists_takes takes part child
  refine ⟨name, ids, _, listFor, ?_, set_members hname set, rfl, h.filter c' _, taken⟩
  rw [h.list? hname, list]
  rfl

end Element

namespace Model

/-- What stands in the lists of an element: attributes, operations, literals, and what it owns. -/
def partsOf (m : Model) (id : ElementId) : List ElementId :=
  m.attributesOf id ++ m.operationsOf id ++ m.literalsOf id ++ m.ownedBy id

/-- Nothing was put in the place of any list. -/
def Unaltered (m : Model) : Prop := ∀ id, (m.get id).Unaltered

variable {m m' : Model} {id : ElementId}

theorem Unaltered.ownedBy_eq (h : m.Unaltered) : m.ownedBy id = (m.get id).content.owned := by
  rw [ownedBy, (h id).owned?]
  cases (m.get id).content <;> rfl

theorem Unaltered.takesParts_of_mem (h : m.Unaltered) {child : ElementId}
    (owned : child ∈ m.ownedBy id) : (m.get id).content.takesParts = true := by
  rw [h.ownedBy_eq] at owned
  cases hc : (m.get id).content with
  | package owned => rfl
  | classifier body => rfl
  | _ =>
    rw [hc] at owned
    cases owned

theorem Unaltered.partsOf_eq (h : m.Unaltered) :
    m.partsOf id = (m.get id).content.members ++ (m.get id).content.owned := by
  rw [partsOf, h.ownedBy_eq, attributesOf, operationsOf, literalsOf, Element.attributes?,
    Element.operations?, Element.literals?, (h id).members? (by decide), (h id).members? (by decide),
    (h id).members? (by decide)]
  cases (m.get id).content with
  | classifier body =>
    by_cases hs : body.sort = .enumeration <;> simp [Content.members, Members.ids?, hs]
  | _ => rfl

theorem Unaltered.takesParts_eq (h : m.Unaltered) :
    m.takesParts id = (m.get id).content.takesParts := by
  rw [takesParts, Element.hides, h id _ (by decide)]
  cases (m.get id).content <;> rfl

end Model

/-! ## One call -/

/-- A call that makes one element a part of another one. -/
structure Addition where
  owner : ElementId
  child : ElementId
  deriving DecidableEq, Repr

namespace Model

variable {m m' : Model} {a : Addition}

/-- The call is one that can be made: the owner has lists for parts, and there is such an element. -/
structure Allows (m : Model) (a : Addition) : Prop where
  owner : m.takesParts a.owner = true
  child : a.child < m.size

/-- All that a call changes: the parent of the element, and one list of its owner. -/
structure Added (m m' : Model) (a : Addition) : Prop where
  owner : (m.get a.owner).content.takesParts = true
  size_eq : m'.size = m.size
  parent_eq : ∀ id,
    (m'.get id).parent = if id = a.child then some a.owner else (m.get id).parent
  content_eq : ∀ id, id ≠ a.owner → (m'.get id).content = (m.get id).content
  takes : (m.get a.owner).content.Takes (m'.get a.owner).content a.child
    (m.get a.child).content.takesParts
  unaltered : m'.Unaltered

/-- The model after a call. -/
def add (m : Model) (a : Addition) : Model := (m.attach a.owner a.child).2

theorem lt_size_of_takesParts {id : ElementId} (h : (m.get id).content.takesParts = true) :
    id < m.size := by
  by_contra outside
  rw [get_of_size_le (Nat.le_of_not_lt outside)] at h
  cases h

/-- The model in which a call looks for the list: the parent is set already, which matters where an
element is added to itself. -/
def withParent (m : Model) (a : Addition) : Model :=
  m.set a.child { m.get a.child with parent := some a.owner }

theorem get_withParent (inside : a.child < m.size) (id : ElementId) : (m.withParent a).get id =
    { m.get id with parent := if id = a.child then some a.owner else (m.get id).parent } := by
  rw [withParent, get_set]
  by_cases hid : id = a.child
  · rw [if_pos ⟨hid, inside⟩, if_pos hid, hid]
  · rw [if_neg fun h => hid h.1, if_neg hid]

/-- A call that can be made finds a list and puts the element at the end of it. -/
theorem attach_eq (unaltered : m.Unaltered) (allowed : m.Allows a) :
    ∃ e', m.attach a.owner a.child = (.ok (), (m.withParent a).set a.owner e') ∧
      e'.parent = ((m.withParent a).get a.owner).parent ∧ e'.Unaltered ∧
      (m.get a.owner).content.Takes e'.content a.child (m.get a.child).content.takesParts := by
  have takes := allowed.owner
  rw [unaltered.takesParts_eq] at takes
  have asked : m.askFor a.owner .takePart = .ok () := by
    rw [askFor, Element.hides, unaltered a.owner _ (by decide)]
    rfl
  have same : ((m.withParent a).get a.owner).content = (m.get a.owner).content := by
    rw [get_withParent allowed.child]
  have unaltered' : ((m.withParent a).get a.owner).Unaltered := by
    rw [get_withParent allowed.child]
    exact unaltered a.owner
  obtain ⟨name, ids, e', listFor, list, set, parent, unaltered', taken⟩ :=
    unaltered'.exists_takes (same ▸ takes) (m.get a.child).content a.child
  rw [same] at listFor taken
  refine ⟨e', ?_, parent, unaltered', taken⟩
  rw [withParent] at list set ⊢
  rw [attach, asked, listFor]
  simp only [list, set]

/-- A call that can be made succeeds. -/
theorem attach_ok (unaltered : m.Unaltered) (allowed : m.Allows a) :
    m.attach a.owner a.child = (.ok (), m.add a) := by
  obtain ⟨e', call, -⟩ := attach_eq unaltered allowed
  rw [add, call]

theorem added_add (unaltered : m.Unaltered) (allowed : m.Allows a) : m.Added (m.add a) a := by
  have takes := allowed.owner
  rw [unaltered.takesParts_eq] at takes
  obtain ⟨e', call, parent, unaltered', taken⟩ := attach_eq unaltered allowed
  have after : m.add a = (m.withParent a).set a.owner e' := congrArg Prod.snd call
  have size : (m.withParent a).size = m.size := size_set ..
  have get_after (id : ElementId) :
      (m.add a).get id = if id = a.owner then e' else (m.withParent a).get id := by
    rw [after, get_set, size]
    simp only [lt_size_of_takesParts takes, and_true]
  refine ⟨takes, ?_, fun id => ?_, fun id other => ?_, ?_, fun id => ?_⟩
  · rw [after, size_set, size]
  · rw [get_after]
    split
    · rename_i hid
      rw [parent, get_withParent allowed.child, hid]
    · rw [get_withParent allowed.child]
  · rw [get_after, if_neg other, get_withParent allowed.child]
  · rw [get_after, if_pos rfl]
    exact taken
  · rw [get_after]
    split
    · exact unaltered'
    · rw [get_withParent allowed.child]
      exact unaltered id

section

variable {id x : ElementId} (h : m.Added m' a)

include h

theorem Added.takesParts_eq :
    (m'.get id).content.takesParts = (m.get id).content.takesParts := by
  by_cases hid : id = a.owner
  · rw [hid, h.takes.takesParts_eq]
  · rw [h.content_eq id hid]

theorem Added.allows (unaltered : m.Unaltered) {b : Addition} (allowed : m.Allows b) :
    m'.Allows b := by
  refine ⟨?_, ?_⟩
  · rw [h.unaltered.takesParts_eq, h.takesParts_eq, ← unaltered.takesParts_eq]
    exact allowed.owner
  · rw [h.size_eq]
    exact allowed.child

/-- The lists of the owner have the element once more, and all else as often as before. -/
theorem Added.count_partsOf (unaltered : m.Unaltered) :
    (m'.partsOf id).count x =
      (m.partsOf id).count x + if id = a.owner ∧ x = a.child then 1 else 0 := by
  rw [h.unaltered.partsOf_eq, unaltered.partsOf_eq, List.count_append, List.count_append]
  by_cases hid : id = a.owner
  · subst hid
    have one : [a.child].count x = if a.owner = a.owner ∧ x = a.child then 1 else 0 := by
      by_cases hx : x = a.child
      · simp [hx]
      · simp [hx, Ne.symm hx]
    rw [← one]
    rcases h.takes.lists with ⟨members, owned⟩ | ⟨-, members, owned⟩
    · rw [members, owned, List.count_append]
      omega
    · rw [members.count_eq, owned, List.count_append]
      omega
  · rw [h.content_eq id hid, if_neg fun both => hid both.1, Nat.add_zero]

theorem Added.mem_partsOf (unaltered : m.Unaltered) :
    x ∈ m'.partsOf id ↔ x ∈ m.partsOf id ∨ id = a.owner ∧ x = a.child := by
  rw [← List.count_pos_iff, h.count_partsOf unaltered, ← List.count_pos_iff]
  split <;> simp_all

/-- What an element owns, it owns after the call, and at most the added element besides. -/
theorem Added.ownedBy_eq (unaltered : m.Unaltered) : m'.ownedBy id = m.ownedBy id ∨
    id = a.owner ∧ m'.ownedBy id = m.ownedBy id ++ [a.child] := by
  rw [h.unaltered.ownedBy_eq, unaltered.ownedBy_eq]
  by_cases hid : id = a.owner
  · subst hid
    rcases h.takes.lists with ⟨-, owned⟩ | ⟨-, -, owned⟩
    · exact .inr ⟨rfl, owned⟩
    · exact .inl owned
  · rw [h.content_eq id hid]
    exact .inl rfl

/-- An element that has lists of its own is owned after the call. -/
theorem Added.child_mem_ownedBy (takes : (m.get a.child).content.takesParts = true) :
    a.child ∈ m'.ownedBy a.owner := by
  rw [h.unaltered.ownedBy_eq]
  rcases h.takes.lists with ⟨-, owned⟩ | ⟨member, -, -⟩
  · rw [owned]
    exact List.mem_append_right _ List.mem_cons_self
  · rw [takes] at member
    cases member

end

/-! ## Calls one after the other -/

/-- The model after the calls. -/
def addAll (m : Model) (calls : List Addition) : Model := calls.foldl add m

/-- The models before the first call and after each of them are of the kind. -/
def Throughout (m : Model) (calls : List Addition) (P : Model → Prop) : Prop :=
  ∀ before, before <+: calls → P (m.addAll before)

/-- Every call is of the kind in the model that it meets. -/
def EachCall (m : Model) (calls : List Addition) (C : Model → Addition → Prop) : Prop :=
  ∀ before a, before ++ [a] <+: calls → C (m.addAll before) a

variable {calls : List Addition} {P : Model → Prop} {C : Model → Addition → Prop}

theorem throughout_cons :
    m.Throughout (a :: calls) P ↔ P m ∧ (m.add a).Throughout calls P := by
  constructor
  · intro h
    refine ⟨h [] List.nil_prefix, fun before hb => ?_⟩
    exact h (a :: before) (List.prefix_cons_inj a |>.mpr hb)
  · rintro ⟨now, later⟩ before hb
    rcases List.prefix_cons_iff.mp hb with rfl | ⟨rest, rfl, hrest⟩
    · exact now
    · exact later rest hrest

theorem eachCall_cons :
    m.EachCall (a :: calls) C ↔ C m a ∧ (m.add a).EachCall calls C := by
  constructor
  · intro h
    refine ⟨h [] a (by simp), fun before b hb => ?_⟩
    exact h (a :: before) b (List.prefix_cons_inj a |>.mpr hb)
  · rintro ⟨now, later⟩ before b hb
    cases before with
    | nil =>
      obtain ⟨rfl, -⟩ := List.cons_prefix_cons.mp hb
      exact now
    | cons first rest =>
      obtain ⟨rfl, after⟩ := List.cons_prefix_cons.mp hb
      exact later rest b after

/-- What has a parent stands in a list of the parent, and what stands in a list has a parent. -/
structure Linked (m : Model) : Prop where
  unaltered : m.Unaltered
  listed : ∀ id owner, (m.get id).parent = some owner → id ∈ m.partsOf owner
  known : ∀ id owner, id ∈ m.partsOf owner → (m.get id).parent ≠ none

theorem Linked.added (linked : m.Linked) (h : m.Added m' a) : m'.Linked := by
  refine ⟨h.unaltered, fun id owner parent => ?_, fun id owner listed => ?_⟩
  · rw [h.mem_partsOf linked.unaltered]
    rw [h.parent_eq] at parent
    split at parent
    · cases parent
      exact .inr ⟨rfl, ‹_›⟩
    · exact .inl (linked.listed id owner parent)
  · rw [h.parent_eq]
    split
    · exact nofun
    · rename_i other
      rcases (h.mem_partsOf linked.unaltered).mp listed with before | ⟨-, same⟩
      · exact linked.known id owner before
      · exact absurd same other

/-- What holds of a call by what it does holds of each of them. -/
theorem Linked.eachCall (linked : m.Linked) (allowed : ∀ a ∈ calls, m.Allows a)
    (step : ∀ {m : Model} {a : Addition}, m.Linked → m.Allows a → C m a) : m.EachCall calls C := by
  induction calls generalizing m with
  | nil => exact fun before a hb => absurd (List.prefix_nil.mp hb) (by simp)
  | cons a rest ih =>
    obtain ⟨first, others⟩ := List.forall_mem_cons.mp allowed
    have added := added_add linked.unaltered first
    exact eachCall_cons.mpr ⟨step linked first, ih (linked.added added) fun b hb =>
      added.allows linked.unaltered (others b hb)⟩

/-- Where one call decides whether `P` goes on, all of them do. -/
theorem Linked.throughout_iff (linked : m.Linked) (allowed : ∀ a ∈ calls, m.Allows a)
    (step : ∀ {m m' : Model} {a : Addition}, m.Linked → m.Added m' a → P m → (P m' ↔ C m a))
    (now : P m) : m.Throughout calls P ↔ m.EachCall calls C := by
  induction calls generalizing m with
  | nil =>
    refine ⟨fun _ before a hb => absurd (List.prefix_nil.mp hb) (by simp), fun _ before hb => ?_⟩
    rw [List.prefix_nil.mp hb]
    exact now
  | cons a rest ih =>
    obtain ⟨first, others⟩ := List.forall_mem_cons.mp allowed
    have added := added_add linked.unaltered first
    have rest_iff := ih (linked.added added) fun b hb => added.allows linked.unaltered (others b hb)
    rw [throughout_cons, eachCall_cons]
    constructor
    · rintro ⟨-, later⟩
      have next : P (m.add a) := later [] List.nil_prefix
      exact ⟨(step linked added now).mp next, (rest_iff next).mp later⟩
    · rintro ⟨good, later⟩
      exact ⟨now, (rest_iff ((step linked added now).mpr good)).mpr later⟩

end Model

end GosuForge
