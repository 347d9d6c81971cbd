import GosuForge.Proofs.Ancestry
import GosuForge.Proofs.Inspection
import GosuForge.Proofs.Resolution

/-!
# The tree of a loaded model

What is loaded from a document is a tree of elements of their own kinds that are named by texts, and
each element is known as what encloses those that it owns.

* `Draft.mem_nodes_of_owned`: a node owns nodes that it encloses;
* `Model.OnlyElements`: a model keeps nothing but elements;
* `Model.AllBuilt`: and none of them has fields that were put on it;
* `LoadedModel.isTree_of_ofDocument`: the whole.
-/

namespace GosuForge

namespace Draft

variable {resolve : Resolver} {m : Model}

theorem mem_nodesAll_of_mem_numbers {outer : List (ElementId × Heading)} {child : ElementId}
    {ds : List Draft} {next : ElementId} (h : child ∈ numbers next ds) :
    ∃ heading, ((child, heading), outer) ∈ nodesAll outer next ds := by
  induction ds generalizing next with
  | nil => exact absurd h List.not_mem_nil
  | cons d rest ih =>
    rw [numbers] at h
    rw [nodesAll]
    rcases List.mem_cons.mp h with rfl | h
    · obtain ⟨heading, id, body, children⟩ := d
      refine ⟨heading, List.mem_append_left _ ?_⟩
      rw [nodes]
      exact List.mem_cons_self
    · obtain ⟨heading, hmem⟩ := ih h
      exact ⟨heading, List.mem_append_right _ hmem⟩

mutual

/-- What a node owns are nodes that it encloses, after all that encloses the node itself. -/
theorem mem_nodes_of_owned : ∀ (d : Draft) {outer : List (ElementId × Heading)}
    {parent : Option ElementId} {next : ElementId}, d.WellFormed →
    d.PlacedAt resolve m parent next →
      ∀ n ∈ d.nodes outer next, ∀ child ∈ m.ownedBy n.1.1,
        ∃ heading, ((child, heading), n.1 :: n.2) ∈ d.nodes outer next
  | node heading id body children, outer, parent, next, wf, hp, n, hn, child, hc => by
    have owned := Model.orNone_eq_ok (orNone_owned?_of_placedAt wf hp)
    obtain ⟨-, -, placed⟩ := placedAt_node.mp hp
    rw [WellFormed] at wf
    rw [nodes] at hn ⊢
    rcases List.mem_cons.mp hn with rfl | hn
    · rw [owned] at hc
      obtain ⟨heading', hmem⟩ := mem_nodesAll_of_mem_numbers hc
      exact ⟨heading', List.mem_cons_of_mem _ hmem⟩
    · obtain ⟨heading', hmem⟩ := mem_nodesAll_of_owned children wf.2 placed n hn child hc
      exact ⟨heading', List.mem_cons_of_mem _ hmem⟩

theorem mem_nodesAll_of_owned : ∀ (ds : List Draft) {outer : List (ElementId × Heading)}
    {parent : Option ElementId} {next : ElementId}, AllWellFormed ds →
      List.Forall₂ (fun d n => d.PlacedAt resolve m parent n) ds (numbers next ds) →
      ∀ n ∈ nodesAll outer next ds, ∀ child ∈ m.ownedBy n.1.1,
        ∃ heading, ((child, heading), n.1 :: n.2) ∈ nodesAll outer next ds
  | [], _, _, _, _, _, n, hn, _, _ => by
    rw [nodesAll] at hn
    exact absurd hn List.not_mem_nil
  | d :: rest, outer, parent, next, wf, hp, n, hn, child, hc => by
    rw [AllWellFormed] at wf
    rw [numbers, List.forall₂_cons] at hp
    rw [nodesAll] at hn ⊢
    rcases List.mem_append.mp hn with hn | hn
    · obtain ⟨heading, hmem⟩ := mem_nodes_of_owned d wf.1 hp.1 n hn child hc
      exact ⟨heading, List.mem_append_left _ hmem⟩
    · obtain ⟨heading, hmem⟩ := mem_nodesAll_of_owned rest wf.2 hp.2 n hn child hc
      exact ⟨heading, List.mem_append_right _ hmem⟩

end

end Draft

/-! ## Models that keep nothing but elements -/

namespace Element

/-- Whether other data stands in the place of an element. -/
def isStray (e : Element) : Bool :=
  match e.content with
  | .stray _ => true
  | _ => false

/-- An element that has only the fields that its content has a place for. -/
def isBuilt (e : Element) : Bool := !e.isStray && e.further.isEmpty

theorem hasOwnKind_of_isBuilt {e : Element} (h : e.isBuilt = true) : e.hasOwnKind = true := by
  rw [isBuilt, Bool.and_eq_true, List.isEmpty_iff] at h
  rw [hasOwnKind, h.2]
  rfl

theorem hides_of_isBuilt {e : Element} (h : e.isBuilt = true) (deed : Deed) :
    e.hides deed = false := by
  rw [isBuilt, Bool.and_eq_true, List.isEmpty_iff] at h
  rw [hides, h.2]
  rfl

/-- What is neither a package nor a declaration. -/
def isOther (e : Element) : Bool := e.isBuilt && !e.isPackage && e.sort?.isNone

theorem isBuilt_of_isOther {e : Element} (h : e.isOther = true) : e.isBuilt = true := by
  rw [isOther, Bool.and_eq_true, Bool.and_eq_true] at h
  exact h.1.1

end Element

namespace Model

def OnlyElements (m : Model) : Prop := ∀ e ∈ m.elements, e.isStray = false

theorem read_of_isBuilt {m : Model} {id : ElementId} (h : (m.get id).isBuilt = true) :
    m.read id = .ok (m.get id) := by
  rw [read]
  split
  · rename_i v hc
    rw [Element.isBuilt, Element.isStray, hc] at h
    cases h
  · rfl

def AllBuilt (m : Model) : Prop := ∀ e ∈ m.elements, e.isBuilt = true

theorem AllBuilt.push {m : Model} (h : m.AllBuilt) {e : Element} (he : e.isBuilt = true) :
    (m.push e).AllBuilt := by
  intro e' he'
  rcases Array.mem_push.mp he' with h' | rfl
  · exact h e' h'
  · exact he

theorem AllBuilt.isBuilt_get {m : Model} (h : m.AllBuilt) (id : ElementId) :
    (m.get id).isBuilt = true := by
  by_cases inside : id < m.elements.size
  · rw [get, Array.getD_eq_getD_getElem?, Array.getElem?_eq_getElem inside]
    exact h _ (Array.getElem_mem inside)
  · rw [get_of_size_le (Nat.le_of_not_lt inside)]
    rfl

theorem AllBuilt.onlyElements {m : Model} (h : m.AllBuilt) : m.OnlyElements := by
  intro e he
  have built := h e he
  rw [Element.isBuilt, Bool.and_eq_true, Bool.not_eq_true'] at built
  exact built.1

theorem OnlyElements.plainlyNamed {m : Model} (h : m.OnlyElements) : m.PlainlyNamed := by
  intro named id v _ hv
  have stray : (m.get id).isStray = true := by rw [Element.isStray, hv]
  by_cases hs : id < m.elements.size
  · have hget : m.get id = m.elements[id] := by
      simp [get, Array.getD_eq_getD_getElem?, hs]
    rw [hget, h _ (Array.getElem_mem hs)] at stray
    cases stray
  · rw [get_of_size_le (Nat.le_of_not_lt hs)] at stray
    cases stray

/-- The elements `ids` are a tree below `root`, in which each is known as what encloses those that
it owns, and no element is named by a list. -/
structure IsTree (m : Model) (root : ElementId) (ids : List ElementId) : Prop where
  plain : m.PlainlyNamed
  spans : m.Spans root ids
  encloses : m.Encloses ids

end Model

theorem DraftOperation.isOther_placeAll {resolve : Resolver} {owner next : ElementId}
    (os : List DraftOperation) : ∀ e ∈ placeAll resolve owner next os, e.isOther = true := by
  induction os generalizing next with
  | nil => exact fun e he => absurd he List.not_mem_nil
  | cons o rest ih =>
    rw [placeAll, place, List.forall_mem_append, List.forall_mem_cons, List.forall_mem_map]
    exact ⟨⟨rfl, fun _ _ => rfl⟩, ih⟩

/-- The members of a classifier are neither packages nor declarations. -/
theorem DraftBody.isOther_place {resolve : Resolver} {owner next : ElementId} (b : DraftBody) :
    ∀ e ∈ b.place resolve owner next, e.isOther = true := by
  cases b with
  | classifier c =>
    rw [place, DraftClassifier.place, List.forall_mem_append, List.forall_mem_append,
      List.forall_mem_map, List.forall_mem_map]
    exact ⟨⟨fun _ _ => rfl, DraftOperation.isOther_placeAll c.operations⟩, fun _ _ => rfl⟩
  | _ => exact fun e he => absurd he List.not_mem_nil

namespace Draft

mutual

theorem isBuilt_place (resolve : Resolver) : ∀ (d : Draft) (parent : Option ElementId)
    (next : ElementId), ∀ e ∈ d.place resolve parent next, e.isBuilt = true
  | node heading id body children, parent, next, e, he => by
    rw [place, List.cons_append] at he
    rcases List.mem_cons.mp he with rfl | he
    · cases body <;> rfl
    · rcases List.mem_append.mp he with he | he
      · exact Element.isBuilt_of_isOther (body.isOther_place e he)
      · exact isBuilt_placeAll resolve children _ _ e he

theorem isBuilt_placeAll (resolve : Resolver) : ∀ (ds : List Draft) (parent : Option ElementId)
    (next : ElementId), ∀ e ∈ placeAll resolve parent next ds, e.isBuilt = true
  | [], _, _, e, he => by
    rw [placeAll] at he
    exact absurd he List.not_mem_nil
  | d :: rest, parent, next, e, he => by
    rw [placeAll] at he
    rcases List.mem_append.mp he with he | he
    · exact isBuilt_place resolve d _ _ e he
    · exact isBuilt_placeAll resolve rest _ _ e he

end

theorem allBuilt_toModel (resolve : Resolver) (d : Draft) :
    (d.toModel resolve).AllBuilt := by
  intro e he
  exact isBuilt_place resolve d none 0 e (by simpa [toModel] using he)

end Draft

namespace LoadedModel

theorem isOther_of_endOf {index : ReferenceIndex} {v : Value} {e : Element}
    (h : endOf index v = .ok e) : e.isOther = true := by
  rw [endOf, Outcome.bind_eq_ok] at h
  obtain ⟨entries, -, h⟩ := h
  obtain ⟨heading, -, h⟩ := Outcome.bind_eq_ok.mp h
  split at h
  · cases h
  · obtain ⟨id, -, h⟩ := Outcome.bind_eq_ok.mp h
    cases h
    rfl

section

variable {document : Value} {whole : Draft} {index : ReferenceIndex} {resolver : Resolver}
  {items : List Value} {loaded : LoadedModel} {es : Entries}

/-- No element of a loaded model has fields that were put on it. -/
theorem ReadFrom.allBuilt (r : ReadFrom document es whole index resolver items loaded) :
    loaded.design.model.AllBuilt := by
  refine addRelationships_keeps (P := Model.AllBuilt) (fun m part e built he => ?_)
    (Draft.allBuilt_toModel resolver whole) r.design_eq
  exact built.push (Element.isBuilt_of_isOther (isOther_of_endOf he))

theorem ReadFrom.ancestors_eq (r : ReadFrom document es whole index resolver items loaded)
    {n : (ElementId × Heading) × List (ElementId × Heading)} (hn : n ∈ whole.nodes [] 0) :
    loaded.design.model.ancestors n.1.1 = n.2.map Prod.fst := by
  obtain ⟨⟨next, owned, body, hget⟩, lineage⟩ :=
    Draft.lineage_of_mem_nodes whole [] r.placed.1 trivial n hn
  have few := Draft.length_outer_lt whole n hn
  have size := r.placed.2
  rw [List.length_nil, Nat.zero_add] at few
  rw [Model.ancestors, hget]
  exact lineage.ancestorsFrom_eq (by omega)

theorem ReadFrom.isProper (r : ReadFrom document es whole index resolver items loaded)
    {n : (ElementId × Heading) × List (ElementId × Heading)} (hn : n ∈ whole.nodes [] 0)
    {names : String × String}
    (h : ReferenceIndex.namesOf loaded.design.model n.1.1 = .ok names) :
    loaded.design.model.IsProper n.1.1 := by
  obtain ⟨⟨next, owned, body, hget⟩, -⟩ :=
    Draft.lineage_of_mem_nodes whole [] r.placed.1 trivial n hn
  refine ⟨?_, ?_, names.2, (ReferenceIndex.namesOf_eq_ok h).2⟩
  · rw [Model.read, hget]
    cases body <;> rfl
  · rw [hget]
    rfl

theorem ReadFrom.isTree (r : ReadFrom document es whole index resolver items loaded)
    {ids : List ElementId}
    (below : loaded.design.model.elementsBelow loaded.root = .ok ids) :
    loaded.design.model.IsTree loaded.root ids := by
  have hids := below
  rw [r.root_eq, Draft.elementsBelow_eq r.wellFormed r.placed.1 r.placed.2] at hids
  obtain rfl : (whole.nodes [] 0).map (fun n => n.1.1) = ids := by cases hids; rfl
  have named := r.ofTree_eq
  rw [ReferenceIndex.ofTree, Outcome.bind_eq_ok] at named
  obtain ⟨below', hb, h⟩ := named
  rw [← r.root_eq, below] at hb
  cases hb
  obtain ⟨names, hnames, -⟩ := Outcome.bind_eq_ok.mp h
  refine ⟨r.allBuilt.onlyElements.plainlyNamed, ⟨below, ?_, fun id hid => ?_⟩,
    fun id hid child hc => ?_⟩
  · exact (Draft.nodes_ascending [] whole 0).2.imp Nat.ne_of_lt
  · obtain ⟨n, hn, rfl⟩ := List.mem_map.mp hid
    obtain ⟨name, -, hname⟩ := Outcome.exists_of_mapM hnames _ hid
    exact r.isProper hn hname
  · obtain ⟨n, hn, rfl⟩ := List.mem_map.mp hid
    obtain ⟨heading, hmem⟩ := Draft.mem_nodes_of_owned whole r.wellFormed r.placed.1 n hn child hc
    rw [r.ancestors_eq hn]
    exact r.ancestors_eq hmem

theorem isTree_of_ofDocument {ids : List ElementId} (h : ofDocument document = .ok loaded)
    (below : loaded.design.model.elementsBelow loaded.root = .ok ids) :
    loaded.design.model.IsTree loaded.root ids := by
  obtain ⟨es, whole, index, resolver, items, r⟩ := ofDocument_eq_ok h
  exact r.isTree below

end

end LoadedModel

end GosuForge
