import GosuForge.Proofs.LoadedTree
import GosuForge.Proofs.Parents

/-!
# The tree that a document becomes

The elements below the root of a loaded model stand in the order in which the document gives the parts
that they were built from, and the ids that were given to parts are noted in that order.

* `LoadedModel.parts`: the parts of a document in its order;
* `LoadedModel.forall₂_parts`: each part became the element with its number;
* `LoadedModel.IsTreeOf`, `LoadedModel.isTreeOf_ofDocument`: what a loaded model is for its document.
-/

namespace GosuForge

namespace Draft

mutual

/-- The numbers in a draft from its first one on, each with the id that was given or `null`. -/
def keyed (next : ElementId) : Draft → List (Value × ElementId)
  | node _ id body children => (id, next) :: keyedAll (next + 1 + body.size) children

def keyedAll (next : ElementId) : List Draft → List (Value × ElementId)
  | [] => []
  | d :: rest => d.keyed next ++ keyedAll (next + d.size) rest

end

mutual

theorem identified_eq_filter : ∀ (d : Draft) (next : ElementId),
    d.identified next = (d.keyed next).filter fun (key, _) => !key.isNull
  | node heading id body children, next => by
    rw [identified, keyed, List.filter_cons, identifiedAll_eq_filter children]
    cases hn : id.isNull <;> simp [hn]

theorem identifiedAll_eq_filter : ∀ (ds : List Draft) (next : ElementId),
    identifiedAll next ds = (keyedAll next ds).filter fun (key, _) => !key.isNull
  | [], next => by rw [identifiedAll, keyedAll, List.filter_nil]
  | d :: rest, next => by
    rw [identifiedAll, keyedAll, List.filter_append, identified_eq_filter d,
      identifiedAll_eq_filter rest]

end

mutual

theorem map_snd_keyed (outer : List (ElementId × Heading)) : ∀ (d : Draft) (next : ElementId),
    (d.keyed next).map Prod.snd = (d.nodes outer next).map fun n => n.1.1
  | node heading id body children, next => by
    rw [keyed, nodes, List.map_cons, List.map_cons, map_snd_keyedAll]

theorem map_snd_keyedAll (outer : List (ElementId × Heading)) : ∀ (ds : List Draft)
    (next : ElementId),
    (keyedAll next ds).map Prod.snd = (nodesAll outer next ds).map fun n => n.1.1
  | [], next => by rw [keyedAll, nodesAll, List.map_nil, List.map_nil]
  | d :: rest, next => by
    rw [keyedAll, nodesAll, List.map_append, List.map_append, map_snd_keyed outer d,
      map_snd_keyedAll outer rest]

end

end Draft

namespace LoadedModel

/-! ## The order of a document -/

/-- Whether a part lists elements; it may if it does not say its kind. -/
def listsElements (entries : Entries) : Bool :=
  match ElementKind.ofValue (entries.getD "kind" (.str "class")) with
  | .ok kind => Draft.mayOwn kind
  | .error _ => false

mutual

/-- The parts of a document that are elements, in its order: a part comes before those that it lists. -/
def parts : Value → List Entries
  | .obj entries => entries :: if listsElements entries then partsUnder entries else []
  | _ => []
termination_by structural v => v

def partsUnder : List (String × Value) → List Entries
  | [] => []
  | ("elements", v) :: _ => partsIn v
  | _ :: rest => partsUnder rest
termination_by structural v => v

def partsIn : Value → List Entries
  | .arr items => partsAll items
  | _ => []
termination_by structural v => v

def partsAll : List Value → List Entries
  | [] => []
  | v :: rest => parts v ++ partsAll rest
termination_by structural v => v

end

/-- Texts are no parts. -/
theorem partsAll_str {α : Type} (text : α → String) (xs : List α) :
    partsAll (xs.map fun x => .str (text x)) = [] := by
  induction xs with
  | nil => rfl
  | cons x rest ih => simp [partsAll, parts, ih]

theorem partsIn_eq {v : Value} {items : List Value} (h : v.items? = some items) :
    partsIn v = partsAll items := by
  cases v with
  | arr values =>
    cases h
    rw [partsIn]
  | str s =>
    cases h
    exact (partsAll_str _ s.toList).symm
  | obj entries =>
    cases h
    exact (partsAll_str _ entries).symm
  | _ => cases h

theorem partsUnder_eq {entries : Entries} {items : List Value}
    (h : Draft.itemsOf entries "elements" = .ok items) : partsUnder entries = partsAll items := by
  induction entries with
  | nil =>
    cases h
    rw [partsUnder, partsAll]
  | cons entry rest ih =>
    obtain ⟨key, v⟩ := entry
    by_cases hk : key = "elements"
    · subst hk
      rw [partsUnder]
      refine partsIn_eq ?_
      rw [Draft.itemsOf] at h
      split at h
      · cases h
        assumption
      · cases h
    · have other : ("elements" == key) = false := by simpa using Ne.symm hk
      rw [partsUnder]
      · refine ih ?_
        simpa [Draft.itemsOf, Entries.getD, Entries.get?, List.lookup_cons, other] using h
      · exact fun _ hk' => hk (Prod.mk.inj hk').1

variable {document : Value} {whole : Draft} {index : ReferenceIndex} {resolver : Resolver}
  {items : List Value} {loaded : LoadedModel} {es entries : Entries} {kind : ElementKind}
  {id : ElementId}

theorem Built.listsElements_eq (b : Built document loaded kind entries id) :
    listsElements entries = Draft.mayOwn kind := by
  rw [listsElements]
  cases b with
  | root _ hk =>
    rw [Entries.getD] at hk ⊢
    cases he : entries.get? "kind" with
    | some v =>
      rw [he] at hk
      rw [Option.getD_some, show ElementKind.ofValue v = .ok kind from hk]
    | none =>
      rw [he] at hk
      cases hk
      rfl
  | owned _ _ _ _ hk => rw [hk]

/-- The part was given the key as its id, and became the element. -/
def Became (document : Value) (loaded : LoadedModel) (part : Entries) (x : Value × ElementId) :
    Prop :=
  part.getD "id" .null = x.1 ∧ ∃ kind, Built document loaded kind part x.2

mutual

/-- The parts of a document became the elements that are numbered in its order. -/
theorem forall₂_parts : ∀ (d : Draft) {kind : ElementKind} {entries : Entries} {id : ElementId},
    Stands resolver loaded.design.model whole kind entries id d →
    Built document loaded kind entries id →
      List.Forall₂ (Became document loaded) (parts (.obj entries)) (d.keyed id)
  | .node heading value body children, kind, entries, id, s, b => by
    obtain ⟨usual, ids, ids', hread, -⟩ := s.read
    obtain ⟨_, _, _, _, _, _, he, -, -, -, -, hd, -⟩ := Draft.ofValue_eq_ok hread
    cases he
    cases hd
    rw [parts, Draft.keyed, b.listsElements_eq]
    refine .cons ⟨rfl, kind, b⟩ ?_
    obtain ⟨owned, ⟨none, rfl⟩ | ⟨own, listed, hlisted, h⟩⟩ := s.children
    · rw [none, if_neg Bool.false_ne_true]
      exact .nil
    · rw [own, if_pos rfl, partsUnder_eq hlisted]
      refine forall₂_partsAll children ?_
      have length : (loaded.design.model.ownedBy id).length = children.length := by
        rw [owned, Draft.length_numbers]
      rw [← owned]
      refine List.forall₂_iff_zip.mpr ⟨h.length_eq, fun {v p} hmem => ?_⟩
      obtain ⟨part, kind', rfl, hk, s'⟩ := List.forall₂_zip h hmem
      have listedThere : (.obj part, p.2) ∈ listed.zip (loaded.design.model.ownedBy id) := by
        rw [← List.map_snd_zip (Nat.le_of_eq length), List.zip_map_right]
        exact List.mem_map.mpr ⟨_, hmem, rfl⟩
      exact ⟨part, kind', rfl, s', b.owned own hlisted listedThere hk⟩

theorem forall₂_partsAll : ∀ (ds : List Draft) {items : List Value} {next : ElementId},
    List.Forall₂ (fun v p => ∃ part kind, v = .obj part ∧
      Stands resolver loaded.design.model whole kind part p.2 p.1 ∧
      Built document loaded kind part p.2) items (ds.zip (Draft.numbers next ds)) →
      List.Forall₂ (Became document loaded) (partsAll items) (Draft.keyedAll next ds)
  | [], _, _, h => by
    cases h
    rw [partsAll, Draft.keyedAll]
    exact .nil
  | d :: rest, _, _, h => by
    rw [Draft.numbers, List.zip_cons_cons] at h
    obtain ⟨v, others, ⟨part, kind, rfl, s, b⟩, hrest, rfl⟩ := List.forall₂_cons_right_iff.mp h
    rw [partsAll, Draft.keyedAll]
    exact List.rel_append (forall₂_parts d s b) (forall₂_partsAll rest hrest)

end

end LoadedModel

/-! ## Parents before children -/

namespace Model

variable {m : Model} {root id : ElementId} {ids : List ElementId}

/-- Everything that a walk meets is below where it begins. -/
theorem below_of_mem_walk {fuel : Nat} (h : m.walk fuel root = (ids, none)) (hid : id ∈ ids) :
    m.Below root id := by
  induction fuel generalizing root ids with
  | zero => cases h
  | succ fuel ih =>
    obtain ⟨-, children, rfl⟩ := walk_succ_eq.mp h
    rcases List.mem_cons.mp hid with rfl | hid
    · exact .refl
    · obtain ⟨child, hc, hid⟩ := List.mem_flatMap.mp hid
      exact .head hc (ih (Prod.ext rfl (children child hc)) hid)

theorem Spans.mem_iff_below (spans : m.Spans root ids) : id ∈ ids ↔ m.Below root id :=
  ⟨below_of_mem_walk spans.walk_eq, spans.mem_of_below⟩

/-- A parent has a smaller number, so it stands earlier among ascending numbers. -/
theorem Spans.parent_mem_before (spans : m.Spans root ids) (parents : ∀ id, m.IsParent id)
    (top : (m.get root).parent = none) (ascending : ids.Pairwise (· < ·))
    {before after : List ElementId} (e : ids = before ++ id :: after) {parent : ElementId}
    (hp : (m.get id).parent = some parent) : parent ∈ before := by
  have hid : id ∈ ids := e ▸ List.mem_append_right _ List.mem_cons_self
  rcases (spans.mem_iff_below.mp hid).cases_tail with rfl | ⟨owner, below, hc⟩
  · rw [top] at hp
    cases hp
  · have listed : id ∈ m.listedBy owner := List.mem_append_right _ hc
    have same := (parents owner).parent id listed
    rw [hp] at same
    cases same
    have earlier : parent < id := (List.pairwise_cons.mp (parents parent).ascending).1 id listed
    have met : parent ∈ ids := spans.mem_iff_below.mpr below
    rw [e] at met ascending
    obtain ⟨-, rest, -⟩ := List.pairwise_append.mp ascending
    rcases List.mem_append.mp met with before | later
    · exact before
    · rcases List.mem_cons.mp later with rfl | later
      · exact absurd earlier (Nat.lt_irrefl _)
      · exact absurd ((List.pairwise_cons.mp rest).1 parent later) (Nat.lt_asymm earlier)

end Model

/-! ## The whole tree -/

namespace LoadedModel

/-- What a loaded model is for its document: a tree in which everything has one parent. -/
structure IsTreeOf (document : Value) (loaded : LoadedModel) : Prop where
  /-- The root has no parent; all that an element lists has that element as its parent, and stands in
  its lists once. -/
  root : (loaded.design.model.get loaded.root).parent = none
  parent : ∀ id, ∀ child ∈ loaded.design.model.listedBy id,
    (loaded.design.model.get child).parent = some id
  once : ∀ id, (loaded.design.model.listedBy id).Nodup
  /-- The elements below the root are listed once each, in the order of the parts that became them and
  parents before children; the ids that were given to the parts are noted in this order. -/
  elements : ∃ ids, loaded.design.model.elementsBelow loaded.root = .ok ids ∧ ids.Nodup ∧
    (∀ id, id ∈ ids ↔ loaded.design.model.Below loaded.root id) ∧
    List.Forall₂ (fun part id => ∃ kind, Built document loaded kind part id) (parts document) ids ∧
    (∀ before id after, ids = before ++ id :: after →
      ∀ parent, (loaded.design.model.get id).parent = some parent → parent ∈ before) ∧
    loaded.ids = (((parts document).map fun part => part.getD "id" .null).zip ids).filter
      fun (key, _) => !key.isNull
  distinct : Draft.Distinct (loaded.ids.map Prod.fst)
  /-- The way up from all that the root contains ends at the root. -/
  climbs : ∀ id, loaded.design.model.Contains loaded.root id →
    loaded.design.model.ClimbsTo loaded.root id (loaded.design.model.ancestors id)

/-- **Loading a document yields a tree of owners**: the root has no parent, and everything else has
the one parent that lists it; the elements below the root are those of the parts of the document, each
of them once and in its order, so parents come first; the ids that were given are noted in this order;
and the way up from anything ends at the root. -/
theorem isTreeOf_ofDocument {document : Value} {loaded : LoadedModel}
    (h : ofDocument document = .ok loaded) : IsTreeOf document loaded := by
  obtain ⟨es, whole, index, resolver, items, r⟩ := ofDocument_eq_ok h
  obtain ⟨known, hd⟩ := r.draft_eq
  obtain ⟨entries, kind, _, _, _, _, he, hk, -, -, -, -, -⟩ := Draft.ofValue_eq_ok hd
  have became := forall₂_parts whole (r.stands he hk) (.root he hk)
  rw [← he, r.root_eq] at became
  have keys : (parts document).map (fun part => part.getD "id" .null) =
      (whole.keyed 0).map Prod.fst := by
    refine List.forall₂_eq_eq_eq ▸ ?_
    exact List.forall₂_map_left_iff.mpr (List.forall₂_map_right_iff.mpr (became.imp fun _ _ h => h.1))
  have top := r.placed.1.parent_eq
  rw [← r.root_eq] at top
  have ascending := (Draft.nodes_ascending [] whole 0).2
  rw [← Draft.map_snd_keyed] at ascending
  have below : loaded.design.model.elementsBelow loaded.root = .ok ((whole.keyed 0).map Prod.snd) := by
    rw [r.root_eq, Draft.map_snd_keyed [], Draft.elementsBelow_eq r.wellFormed r.placed.1 r.placed.2]
  have spans := (r.isTree below).spans
  refine ⟨top, fun id => (r.isParent id).parent, fun id => ?_, ⟨_, below, spans.once,
    fun id => spans.mem_iff_below, ?_, fun before id after e parent hp => ?_, ?_⟩, ?_,
    fun id => r.climbsTo⟩
  · exact (List.pairwise_cons.mp (r.isParent id).ascending).2.imp Nat.ne_of_lt
  · exact List.forall₂_map_right_iff.mpr (became.imp fun _ _ h => h.2)
  · exact spans.parent_mem_before r.isParent top ascending e hp
  · rw [r.ids_eq, Draft.identified_eq_filter, ← List.zip_of_prod keys.symm rfl]
  · obtain ⟨noted, distinct⟩ := Draft.ids_of_ofValue whole 0 hd
    rw [List.nil_append] at noted
    rw [r.ids_eq, ← noted]
    exact distinct .nil

/-- A class with an attribute, an operation and an enumeration of its own, and an interface. -/
def palette : Value :=
  .obj [("name", .str "m"),
    ("elements", .arr [
      .obj [("name", .str "Palette"), ("id", .str "p"),
        ("attributes", .arr [.obj [("name", .str "size"), ("id", .str "a")]]),
        ("operations", .arr [.obj [("name", .str "mix"),
          ("parameters", .arr [.obj [("name", .str "parts")]])]]),
        ("elements", .arr [.obj [("name", .str "Colour"), ("id", .int 3),
          ("kind", .str "enumeration"), ("literals", .arr [.str "RED", .str "GREEN"])]])],
      .obj [("name", .str "Shape"), ("kind", .str "interface"), ("id", .str "s")]])]

theorem isTreeOf_palette : ∃ loaded, ofDocument palette = .ok loaded ∧ IsTreeOf palette loaded ∧
    loaded.design.model.elementsBelow loaded.root = .ok [0, 1, 5, 8] ∧
    loaded.design.model.listedBy 5 = [6, 7] ∧ loaded.design.model.ancestors 4 = [3, 1, 0] := by
  have listed : (ofDocument palette >>= fun loaded =>
      loaded.design.model.elementsBelow loaded.root) = .ok [0, 1, 5, 8] := by
    rfl
  have literals : (ofDocument palette).map (·.design.model.listedBy 5) = .ok [6, 7] := by
    rfl
  have enclosing : (ofDocument palette).map (·.design.model.ancestors 4) = .ok [3, 1, 0] := by
    rfl
  obtain ⟨loaded, h, below⟩ := Outcome.bind_eq_ok.mp listed
  rw [h] at literals enclosing
  exact ⟨loaded, h, isTreeOf_ofDocument h, below, Except.ok.inj literals, Except.ok.inj enclosing⟩

end LoadedModel

end GosuForge
