import GosuForge.Document.Placement
import GosuForge.Document.Reference
import GosuForge.Proofs.Outcome
import GosuForge.Proofs.Tree

/-!
# Drafts in models

* `Model.Holds`: a model holds a list of elements one after the other from a number on;
* `Draft.PlacedAt`: a model holds the elements of a draft;
* `Draft.nodes`: the elements of the tree that a draft becomes, each with those that enclose it;
* `Draft.walk_eq`: a walk over a placed draft meets its nodes.
-/

namespace GosuForge

namespace Model

def Holds (m : Model) (next : ElementId) (elements : List Element) : Prop :=
  ∀ i e, elements[i]? = some e → m.get (next + i) = e

variable {m : Model} {next : ElementId}

theorem holds_append {l l' : List Element} :
    m.Holds next (l ++ l') ↔ m.Holds next l ∧ m.Holds (next + l.length) l' := by
  constructor
  · intro h
    refine ⟨fun i e hi => h i e ?_, fun i e hi => ?_⟩
    · rw [List.getElem?_append_left (List.getElem?_eq_some_iff.mp hi).1]
      exact hi
    · rw [Nat.add_assoc]
      refine h (l.length + i) e ?_
      rw [List.getElem?_append_right (Nat.le_add_right _ _), Nat.add_sub_cancel_left]
      exact hi
  · rintro ⟨h, h'⟩ i e hi
    by_cases hl : i < l.length
    · rw [List.getElem?_append_left hl] at hi
      exact h i e hi
    · have hle : l.length ≤ i := Nat.le_of_not_lt hl
      rw [List.getElem?_append_right hle] at hi
      have := h' _ e hi
      rwa [Nat.add_assoc, Nat.add_sub_cancel' hle] at this

theorem holds_cons {e : Element} {l : List Element} :
    m.Holds next (e :: l) ↔ m.get next = e ∧ m.Holds (next + 1) l := by
  rw [← List.singleton_append, holds_append]
  refine and_congr ⟨fun h => h 0 e rfl, fun h i e' hi => ?_⟩ Iff.rfl
  obtain ⟨rfl, rfl⟩ : i = 0 ∧ e' = e := by
    cases i with
    | zero => exact ⟨rfl, (Option.some.inj hi).symm⟩
    | succ i => cases hi
  exact h

/-- Elements that are made alike from a list are found at the numbers of its items. -/
theorem holds_map {α : Type} {f : α → Element} {l : List α} :
    m.Holds next (l.map f) ↔
      List.Forall₂ (fun x id => m.get id = f x) l (List.range' next l.length) := by
  induction l generalizing next with
  | nil => simp [Holds]
  | cons x rest ih =>
    rw [List.map_cons, holds_cons, ih, List.length_cons, List.range'_succ, List.forall₂_cons]

theorem holds_toArray (l : List Element) : Holds ⟨l.toArray⟩ 0 l := by
  intro i e hi
  obtain ⟨hl, he⟩ := List.getElem?_eq_some_iff.mp hi
  simp [get, Array.getD_eq_getD_getElem?, hl, he]

end Model

namespace DraftOperation

theorem length_place (resolve : Resolver) (owner next : ElementId) (o : DraftOperation) :
    (o.place resolve owner next).length = o.size := by
  simp [place, size, Nat.add_comm]

theorem length_placeAll (resolve : Resolver) (owner next : ElementId) (os : List DraftOperation) :
    (placeAll resolve owner next os).length = sizeAll os := by
  induction os generalizing next with
  | nil => rfl
  | cons o rest ih => simp [placeAll, sizeAll, length_place, ih]

theorem holds_placeAll {m : Model} {resolve : Resolver} {owner next : ElementId}
    {os : List DraftOperation} :
    m.Holds next (placeAll resolve owner next os) ↔
      List.Forall₂ (fun o id => m.Holds id (o.place resolve owner id)) os (numbers next os) := by
  induction os generalizing next with
  | nil => simp [placeAll, numbers, Model.Holds]
  | cons o rest ih =>
    rw [placeAll, Model.holds_append, length_place, ih, numbers, List.forall₂_cons]

end DraftOperation

theorem DraftBody.length_place (resolve : Resolver) (owner next : ElementId) (b : DraftBody) :
    (b.place resolve owner next).length = b.size := by
  cases b with
  | plain => rfl
  | package => rfl
  | classifier c =>
    simp [place, size, DraftClassifier.place, DraftClassifier.size, DraftClassifier.operationsSize,
      DraftOperation.length_placeAll, Nat.add_assoc]

namespace Draft

mutual

theorem length_place (resolve : Resolver) (parent : Option ElementId) (next : ElementId) :
    ∀ d : Draft, (d.place resolve parent next).length = d.size
  | node heading id body children => by
    simp [place, size, DraftBody.length_place, length_placeAll resolve _ _ children]
    omega

theorem length_placeAll (resolve : Resolver) (parent : Option ElementId) (next : ElementId) :
    ∀ ds : List Draft, (placeAll resolve parent next ds).length = sizeAll ds
  | [] => rfl
  | d :: rest => by
    simp [placeAll, sizeAll, length_place resolve parent next d,
      length_placeAll resolve parent _ rest]

end

theorem length_numbers (next : ElementId) (ds : List Draft) :
    (numbers next ds).length = ds.length := by
  induction ds generalizing next with
  | nil => rfl
  | cons d rest ih => rw [numbers, List.length_cons, List.length_cons, ih]

/-- A model holds the elements of a draft from the number `next` on. -/
def PlacedAt (resolve : Resolver) (m : Model) (parent : Option ElementId) (next : ElementId)
    (d : Draft) : Prop :=
  m.Holds next (d.place resolve parent next)

variable {resolve : Resolver} {m : Model}

theorem holds_placeAll {parent : Option ElementId} {next : ElementId} {ds : List Draft} :
    m.Holds next (placeAll resolve parent next ds) ↔
      List.Forall₂ (fun d id => d.PlacedAt resolve m parent id) ds (numbers next ds) := by
  induction ds generalizing next with
  | nil => simp [placeAll, numbers, Model.Holds]
  | cons d rest ih =>
    rw [placeAll, Model.holds_append, length_place, ih, numbers, List.forall₂_cons]
    rfl

/-- The element of a placed node, its members, and the drafts below it in their places. -/
theorem placedAt_node {parent : Option ElementId} {next : ElementId} {heading : Heading}
    {id : Value} {body : DraftBody} {children : List Draft} :
    (node heading id body children).PlacedAt resolve m parent next ↔
      m.get next = heading.place parent
          (body.content (next + 1) (numbers (next + 1 + body.size) children)) ∧
        m.Holds (next + 1) (body.place resolve next (next + 1)) ∧
        List.Forall₂ (fun d n => d.PlacedAt resolve m (some next) n) children
          (numbers (next + 1 + body.size) children) := by
  rw [PlacedAt, place, List.cons_append, Model.holds_cons, Model.holds_append,
    DraftBody.length_place, holds_placeAll]

/-! ## The tree of a draft -/

mutual

/-- Only packages and classifiers own anything. -/
def WellFormed : Draft → Prop
  | node _ _ body children => (body = .plain → children = []) ∧ AllWellFormed children

def AllWellFormed : List Draft → Prop
  | [] => True
  | d :: rest => d.WellFormed ∧ AllWellFormed rest

end

mutual

/-- The elements of the tree that a draft becomes from the number `next` on. With each come those that
enclose it, nearest first. -/
def nodes (outer : List (ElementId × Heading)) (next : ElementId) :
    Draft → List ((ElementId × Heading) × List (ElementId × Heading))
  | node heading _ body children =>
    ((next, heading), outer) :: nodesAll ((next, heading) :: outer) (next + 1 + body.size) children

def nodesAll (outer : List (ElementId × Heading)) (next : ElementId) :
    List Draft → List ((ElementId × Heading) × List (ElementId × Heading))
  | [] => []
  | d :: rest => d.nodes outer next ++ nodesAll outer (next + d.size) rest

end

theorem orNone_owned?_place {parent : Option ElementId} {next : ElementId}
    {owned : List ElementId} {body : DraftBody} (heading : Heading) (h : body = .plain → owned = []) :
    Members.orNone (heading.place parent (body.content next owned)).owned? = .ok owned := by
  cases body with
  | plain =>
    rw [h rfl]
    rfl
  | package => rfl
  | classifier c => rfl

theorem orNone_owned?_of_placedAt {parent : Option ElementId} {next : ElementId}
    {heading : Heading} {id : Value} {body : DraftBody} {children : List Draft}
    (wf : (node heading id body children).WellFormed)
    (hp : (node heading id body children).PlacedAt resolve m parent next) :
    Members.orNone (m.get next).owned? = .ok (numbers (next + 1 + body.size) children) := by
  rw [WellFormed] at wf
  rw [(placedAt_node.mp hp).1]
  exact orNone_owned?_place heading fun hb => by rw [wf.1 hb, numbers]

mutual

/-- A walk over a placed draft meets its nodes. -/
theorem walk_eq (outer : List (ElementId × Heading)) :
    ∀ (d : Draft) {parent : Option ElementId} {next : ElementId} {fuel : Nat}, d.WellFormed →
      d.PlacedAt resolve m parent next → d.size ≤ fuel →
      m.walk fuel next = ((d.nodes outer next).map fun n => n.1.1, none)
  | node heading id body children, parent, next, fuel, wf, hp, hf => by
    obtain ⟨-, -, hc⟩ := placedAt_node.mp hp
    have ho := orNone_owned?_of_placedAt wf hp
    have owned := Model.orNone_eq_ok ho
    rw [WellFormed] at wf
    rw [size] at hf
    obtain ⟨k, rfl⟩ : ∃ k, fuel = k + 1 := ⟨fuel - 1, by omega⟩
    have hk : sizeAll children ≤ k := by omega
    obtain ⟨hw, hm⟩ := walkAll_eq ((next, heading) :: outer) children wf.2 hc hk
    refine Model.walk_succ_eq.mpr ⟨⟨_, ho⟩, by rwa [owned], ?_⟩
    rw [owned, hm, nodes, List.map_cons]

theorem walkAll_eq (outer : List (ElementId × Heading)) :
    ∀ (ds : List Draft) {parent : Option ElementId} {next : ElementId} {fuel : Nat},
      AllWellFormed ds →
      List.Forall₂ (fun d n => d.PlacedAt resolve m parent n) ds (numbers next ds) →
      sizeAll ds ≤ fuel →
      (∀ n ∈ numbers next ds, (m.walk fuel n).2 = none) ∧
        ((numbers next ds).flatMap fun n => (m.walk fuel n).1) =
          (nodesAll outer next ds).map fun n => n.1.1
  | [], _, _, _, _, _, _ => ⟨fun _ hn => absurd hn List.not_mem_nil, rfl⟩
  | d :: rest, parent, next, fuel, wf, hp, hf => by
    rw [AllWellFormed] at wf
    rw [sizeAll] at hf
    rw [numbers, List.forall₂_cons] at hp
    have hd := walk_eq outer d wf.1 hp.1 (Nat.le_trans (Nat.le_add_right _ _) hf)
    obtain ⟨hw, hm⟩ := walkAll_eq outer rest wf.2 hp.2 (Nat.le_trans (Nat.le_add_left _ _) hf)
    refine ⟨?_, ?_⟩
    · rw [numbers]
      exact List.forall_mem_cons.mpr ⟨by rw [hd], hw⟩
    · rw [numbers, List.flatMap_cons, hm, hd, nodesAll, List.map_append]

end

/-- Each of the elements is enclosed by the next one, and all of them are as their headings say. -/
def Lineage (m : Model) : List (ElementId × Heading) → Prop
  | [] => True
  | (id, heading) :: outer =>
    (∃ next owned body, m.get id =
      heading.place (outer.head?.map Prod.fst) (DraftBody.content next owned body)) ∧
      Lineage m outer

mutual

theorem lineage_of_mem_nodes : ∀ (d : Draft) (outer : List (ElementId × Heading))
    {next : ElementId}, d.PlacedAt resolve m (outer.head?.map Prod.fst) next → Lineage m outer →
      ∀ n ∈ d.nodes outer next, Lineage m (n.1 :: n.2)
  | node heading id body children, outer, next, hp, hl, n, hn => by
    obtain ⟨hget, -, hc⟩ := placedAt_node.mp hp
    have here : Lineage m ((next, heading) :: outer) := ⟨⟨_, _, _, hget⟩, hl⟩
    rw [nodes] at hn
    rcases List.mem_cons.mp hn with rfl | hn
    · exact here
    · exact lineage_of_mem_nodesAll children ((next, heading) :: outer) hc here n hn

theorem lineage_of_mem_nodesAll : ∀ (ds : List Draft) (outer : List (ElementId × Heading))
    {next : ElementId},
    List.Forall₂ (fun d n => d.PlacedAt resolve m (outer.head?.map Prod.fst) n) ds
      (numbers next ds) → Lineage m outer → ∀ n ∈ nodesAll outer next ds, Lineage m (n.1 :: n.2)
  | [], _, _, _, _, n, hn => by
    rw [nodesAll] at hn
    exact absurd hn List.not_mem_nil
  | d :: rest, outer, next, hp, hl, n, hn => by
    rw [numbers, List.forall₂_cons] at hp
    rw [nodesAll] at hn
    rcases List.mem_append.mp hn with hn | hn
    · exact lineage_of_mem_nodes d outer hp.1 hl n hn
    · exact lineage_of_mem_nodesAll rest outer hp.2 hl n hn

end

mutual

/-- What encloses a node is fewer than the draft takes numbers. -/
theorem length_outer_lt : ∀ (d : Draft) {outer : List (ElementId × Heading)} {next : ElementId},
    ∀ n ∈ d.nodes outer next, n.2.length < outer.length + d.size
  | node heading id body children, outer, next, n, hn => by
    rw [nodes] at hn
    rw [size]
    rcases List.mem_cons.mp hn with rfl | hn
    · simp only
      omega
    · have := length_outer_lt_all children n hn
      rw [List.length_cons] at this
      omega

theorem length_outer_lt_all : ∀ (ds : List Draft) {outer : List (ElementId × Heading)}
    {next : ElementId}, ∀ n ∈ nodesAll outer next ds, n.2.length < outer.length + sizeAll ds
  | [], _, _, n, hn => by
    rw [nodesAll] at hn
    exact absurd hn List.not_mem_nil
  | d :: rest, outer, next, n, hn => by
    rw [nodesAll] at hn
    rw [sizeAll]
    rcases List.mem_append.mp hn with hn | hn
    · have := length_outer_lt d n hn
      omega
    · have := length_outer_lt_all rest n hn
      omega

end

/-- One of `size` numbers from `first` on. -/
def Within (first size n : Nat) : Prop := first ≤ n ∧ n < first + size

theorem Within.left {first size size' n : Nat} (h : Within first size n) :
    Within first (size + size') n := by
  unfold Within at *
  omega

theorem Within.right {first size size' n : Nat} (h : Within (first + size) size' n) :
    Within first (size + size') n := by
  unfold Within at *
  omega

mutual

/-- The nodes of a draft have ascending numbers among those that the draft takes. -/
theorem nodes_ascending (outer : List (ElementId × Heading)) : ∀ (d : Draft) (next : ElementId),
    (∀ n ∈ d.nodes outer next, Within next d.size n.1.1) ∧
      ((d.nodes outer next).map fun n => n.1.1).Pairwise (· < ·)
  | node heading id body children, next => by
    obtain ⟨hb, hp⟩ := nodesAll_ascending ((next, heading) :: outer) children (next + 1 + body.size)
    rw [nodes, size]
    refine ⟨List.forall_mem_cons.mpr ⟨⟨Nat.le_refl _, ?_⟩, fun n hn => ?_⟩, ?_⟩
    · exact Nat.lt_add_of_pos_right (by omega)
    · have h := hb n hn
      rw [Nat.add_assoc] at h
      exact h.right
    · rw [List.map_cons, List.pairwise_cons]
      refine ⟨fun i hi => ?_, hp⟩
      obtain ⟨n, hn, rfl⟩ := List.mem_map.mp hi
      have hle := (hb n hn).1
      rw [Nat.add_assoc] at hle
      exact Nat.lt_of_lt_of_le (Nat.lt_add_of_pos_right (by omega)) hle

theorem nodesAll_ascending (outer : List (ElementId × Heading)) :
    ∀ (ds : List Draft) (next : ElementId),
      (∀ n ∈ nodesAll outer next ds, Within next (sizeAll ds) n.1.1) ∧
        ((nodesAll outer next ds).map fun n => n.1.1).Pairwise (· < ·)
  | [], _ => ⟨fun _ hn => absurd hn List.not_mem_nil, .nil⟩
  | d :: rest, next => by
    obtain ⟨hd, hdp⟩ := nodes_ascending outer d next
    obtain ⟨hr, hrp⟩ := nodesAll_ascending outer rest (next + d.size)
    rw [nodesAll, sizeAll]
    refine ⟨fun n hn => ?_, ?_⟩
    · rcases List.mem_append.mp hn with hn | hn
      · exact (hd n hn).left
      · exact (hr n hn).right
    · rw [List.map_append, List.pairwise_append]
      refine ⟨hdp, hrp, fun i hi j hj => ?_⟩
      obtain ⟨n, hn, rfl⟩ := List.mem_map.mp hi
      obtain ⟨n', hn', rfl⟩ := List.mem_map.mp hj
      exact Nat.lt_of_lt_of_le (hd n hn).2 (hr n' hn').1

end

theorem Lineage.ancestorsFrom_eq {outer : List (ElementId × Heading)} (h : Lineage m outer)
    {fuel : Nat} (hf : outer.length ≤ fuel) :
    m.ancestorsFrom (outer.head?.map Prod.fst) fuel = outer.map Prod.fst := by
  induction outer generalizing fuel with
  | nil => cases fuel <;> rfl
  | cons node outer ih =>
    obtain ⟨id, heading⟩ := node
    obtain ⟨⟨next, owned, body, hget⟩, hl⟩ := h
    obtain ⟨k, rfl⟩ : ∃ k, fuel = k + 1 := ⟨fuel - 1, by rw [List.length_cons] at hf; omega⟩
    have hp : (m.get id).parent = outer.head?.map Prod.fst := by rw [hget]; rfl
    rw [List.head?_cons, Option.map_some, Model.ancestorsFrom, hp,
      ih hl (by rw [List.length_cons] at hf; omega), List.map_cons]

theorem Lineage.namesOf_eq {nodes : List (ElementId × Heading)} (h : Lineage m nodes) :
    m.namesOf (nodes.map Prod.fst) = .ok (nodes.map fun n => n.2.name) := by
  induction nodes with
  | nil => rfl
  | cons node outer ih =>
    obtain ⟨id, heading⟩ := node
    obtain ⟨⟨next, owned, body, hget⟩, hl⟩ := h
    have hr : m.read id = .ok (m.get id) := by
      rw [Model.read, hget]
      cases body <;> rfl
    have ih := ih hl
    rw [Model.namesOf] at ih ⊢
    rw [List.map_cons, List.mapM_cons, hr, ih, hget]
    rfl

/-- The qualified name of a node joins the names of what encloses it and its own. -/
theorem Lineage.qualifiedName_eq {id : ElementId} {heading : Heading}
    {outer : List (ElementId × Heading)} (h : Lineage m ((id, heading) :: outer))
    (hs : outer.length ≤ m.size) :
    m.qualifiedName id =
      Model.joinNames "." (((id, heading) :: outer).map fun n => n.2.name).reverse := by
  have names := h.namesOf_eq
  obtain ⟨⟨next, owned, body, hget⟩, hl⟩ := h
  have hancestors : m.ancestors id = outer.map Prod.fst := by
    rw [Model.ancestors, hget]
    exact hl.ancestorsFrom_eq hs
  have hask : m.askFor id .listEnclosing = .ok () := by
    rw [Model.askFor, hget]
    rfl
  have henclosing : m.enclosing id = .ok (outer.map Prod.fst) := by
    rw [Model.enclosing, hask, hancestors, hl.namesOf_eq]
    rfl
  rw [List.map_cons] at names
  rw [Model.qualifiedName, henclosing]
  simp only [bind, Except.bind, names]

/-- The qualified and the simple name of a node, if all names are texts. -/
def namesOfNode (n : (ElementId × Heading) × List (ElementId × Heading)) :
    Except Fault (String × String) := do
  let qualified ← Model.joinNames "." ((n.1 :: n.2).map fun n => n.2.name).reverse
  match n.1.2.name with
  | .str simple => .ok (qualified, simple)
  | _ => .error .wrongType

theorem elementsBelow_eq {d : Draft} (wf : d.WellFormed) (hp : d.PlacedAt resolve m none 0)
    (hs : d.size ≤ m.size) : m.elementsBelow 0 = .ok ((d.nodes [] 0).map fun n => n.1.1) := by
  have hd : d.size ≤ m.depth := Nat.le_trans hs (Nat.le_succ _)
  rw [Model.elementsBelow, walk_eq [] d wf hp hd]

/-- The names in a tree depend on nothing but its draft. -/
theorem ofTree_eq {d : Draft} (wf : d.WellFormed) (hp : d.PlacedAt resolve m none 0)
    (hs : d.size ≤ m.size) (ids : List (Value × ElementId)) :
    ReferenceIndex.ofTree m 0 ids = (do
      let names ← (d.nodes [] 0).mapM namesOfNode
      .ok ⟨ids, (names.map (·.1)).zip ((d.nodes [] 0).map fun n => n.1.1),
        (names.map (·.2)).zip ((d.nodes [] 0).map fun n => n.1.1)⟩) := by
  have hnames (n) (hn : n ∈ d.nodes [] 0) :
      (ReferenceIndex.namesOf m ∘ fun n => n.1.1) n = namesOfNode n := by
    have hl := lineage_of_mem_nodes d [] hp trivial n hn
    have hlt := length_outer_lt d n hn
    obtain ⟨⟨id, heading⟩, outer⟩ := n
    rw [List.length_nil, Nat.zero_add] at hlt
    have hle := Nat.le_of_lt (Nat.lt_of_lt_of_le hlt hs)
    rw [Function.comp_apply, ReferenceIndex.namesOf, hl.qualifiedName_eq hle, namesOfNode]
    obtain ⟨⟨next, owned, body, hget⟩, -⟩ := hl
    rw [hget]
    rfl
  rw [ReferenceIndex.ofTree, elementsBelow_eq wf hp hs]
  simp only [bind, Except.bind]
  rw [List.mapM_map, Outcome.mapM_congr hnames]

theorem placedAt_toModel (resolve : Resolver) (d : Draft) :
    d.PlacedAt resolve (d.toModel resolve) none 0 :=
  Model.holds_toArray _

theorem size_toModel (resolve : Resolver) (d : Draft) : (d.toModel resolve).size = d.size := by
  simp [toModel, Model.size, length_place]

end Draft

end GosuForge
