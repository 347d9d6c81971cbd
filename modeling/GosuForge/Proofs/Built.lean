import GosuForge.Document.Load
import GosuForge.Proofs.Draft

/-!
# The elements that a document becomes

* `Model.Extends`: a model with further elements behind those of another one;
* `LoadedModel.ReadFrom`: the draft, the names and the relationships that a document was read as;
* `LoadedModel.Built`: which part of a document became which element;
* `LoadedModel.Built.placed`: what was built from a part stands where its draft is placed.
-/

namespace GosuForge

namespace Model

/-- The second model has all elements of the first, and maybe further ones behind them. -/
def Extends (m m' : Model) : Prop := m.size ≤ m'.size ∧ ∀ id < m.size, m'.get id = m.get id

theorem Extends.refl (m : Model) : m.Extends m := ⟨Nat.le_refl _, fun _ _ => rfl⟩

theorem Extends.trans {m m' m'' : Model} (h : m.Extends m') (h' : m'.Extends m'') :
    m.Extends m'' :=
  ⟨Nat.le_trans h.1 h'.1, fun id hid => (h'.2 id (Nat.lt_of_lt_of_le hid h.1)).trans (h.2 id hid)⟩

theorem extends_push (m : Model) (e : Element) : m.Extends (m.push e) := by
  refine ⟨by simp [push, size], fun id hid => ?_⟩
  simp only [size] at hid
  simp [get, push, Array.getD_eq_getD_getElem?, Array.getElem?_push, Nat.ne_of_lt hid]

theorem get_push (m : Model) (e : Element) : (m.push e).get m.next = e := by
  simp [get, push, next, size, Array.getD_eq_getD_getElem?]

theorem Extends.holds {m m' : Model} (h : m.Extends m') {next : ElementId} {l : List Element}
    (hl : next + l.length ≤ m.size) (hm : m.Holds next l) : m'.Holds next l := by
  intro i e hi
  have hlt := (List.getElem?_eq_some_iff.mp hi).1
  rw [h.2 (next + i) (Nat.lt_of_lt_of_le (Nat.add_lt_add_left hlt next) hl)]
  exact hm i e hi

end Model

namespace LoadedModel

/-- What a document was read as. -/
structure ReadFrom (document : Value) (entries : Entries) (draft : Draft) (index : ReferenceIndex)
    (resolver : Resolver) (items : List Value) (loaded : LoadedModel) : Prop where
  document_eq : document = .obj entries
  draft_eq : ∃ ids, Draft.ofValue "package" [] document = .ok (draft, ids)
  index_eq :
    ReferenceIndex.ofTree (draft.toModel fun _ => none) 0 (draft.identified 0) = .ok index
  types : checkTypes index draft.references = .ok ()
  resolver_eq : resolver = fun r => (index.lookup r).toOption.join
  items_eq : Draft.itemsOf entries "relationships" = .ok items
  design_eq : addRelationships index ⟨draft.toModel resolver, []⟩ items = .ok loaded.design
  root_eq : loaded.root = 0
  ids_eq : loaded.ids = draft.identified 0

theorem ofDocument_eq_ok {document : Value} {loaded : LoadedModel}
    (h : ofDocument document = .ok loaded) :
    ∃ entries draft index resolver items,
      ReadFrom document entries draft index resolver items loaded := by
  rw [ofDocument, Outcome.bind_eq_ok] at h
  obtain ⟨draft, hd, h⟩ := h
  obtain ⟨entries, he, h⟩ := Outcome.bind_eq_ok.mp h
  obtain ⟨index, hi, h⟩ := Outcome.bind_eq_ok.mp h
  obtain ⟨⟨⟩, ht, h⟩ := Outcome.bind_eq_ok.mp h
  obtain ⟨items, hitems, h⟩ := Outcome.bind_eq_ok.mp h
  obtain ⟨design, hr, h⟩ := Outcome.bind_eq_ok.mp h
  cases h
  obtain rfl := Draft.entriesOf_eq_ok.mp he
  obtain ⟨⟨draft', ids⟩, hread, rfl⟩ := Outcome.map_eq_ok.mp hd
  exact ⟨_, _, index, _, items, rfl, ⟨ids, hread⟩, hi, ht, rfl, hitems, hr, rfl, rfl⟩

/-- A relationship adds no other elements than ends of associations. -/
theorem addRelationship_keeps {P : Model → Prop} {index : ReferenceIndex} {d d' : Design} {v : Value}
    (pushed : ∀ m part e, P m → endOf index part = .ok e → P (m.push e)) (kept : P d.model)
    (h : addRelationship index d v = .ok d') : P d'.model := by
  rw [addRelationship, Outcome.bind_eq_ok] at h
  obtain ⟨entries, -, h⟩ := h
  obtain ⟨kind, -, h⟩ := Outcome.bind_eq_ok.mp h
  cases kind with
  | association =>
    obtain ⟨end1, h1, h⟩ := Outcome.bind_eq_ok.mp h
    obtain ⟨end2, h2, h⟩ := Outcome.bind_eq_ok.mp h
    cases h
    exact pushed _ _ _ (pushed _ _ _ kept h1) h2
  | directed word kind =>
    obtain ⟨_, -, h⟩ := Outcome.bind_eq_ok.mp h
    obtain ⟨_, -, h⟩ := Outcome.bind_eq_ok.mp h
    obtain ⟨_, -, h⟩ := Outcome.bind_eq_ok.mp h
    obtain ⟨_, -, h⟩ := Outcome.bind_eq_ok.mp h
    cases h
    exact kept

theorem addRelationships_keeps {P : Model → Prop} {index : ReferenceIndex} {items : List Value}
    {d d' : Design} (pushed : ∀ m part e, P m → endOf index part = .ok e → P (m.push e))
    (kept : P d.model) (h : addRelationships index d items = .ok d') : P d'.model := by
  induction items generalizing d with
  | nil =>
    cases h
    exact kept
  | cons v rest ih =>
    rw [addRelationships, Outcome.bind_eq_ok] at h
    obtain ⟨next, hv, h⟩ := h
    exact ih (addRelationship_keeps pushed kept hv) h

theorem addRelationships_extends {index : ReferenceIndex} {items : List Value} {d d' : Design}
    (h : addRelationships index d items = .ok d') : d.model.Extends d'.model :=
  addRelationships_keeps (P := d.model.Extends)
    (fun m _ e larger _ => larger.trans (m.extends_push e)) (.refl _) h

/-- The part `entries` of a document, of the kind `kind`, became the element `id`: the document became
the root, and what a part lists as its elements became what its element owns, in the same order. -/
inductive Built (document : Value) (loaded : LoadedModel) : ElementKind → Entries → ElementId → Prop
  | root {kind : ElementKind} {entries : Entries} : document = .obj entries →
      ElementKind.ofValue (entries.getD "kind" (.str "package")) = .ok kind →
      Built document loaded kind entries loaded.root
  | owned {kind kind' : ElementKind} {entries part : Entries} {id child : ElementId}
      {items : List Value} : Built document loaded kind entries id → Draft.mayOwn kind = true →
      Draft.itemsOf entries "elements" = .ok items →
      (.obj part, child) ∈ items.zip (loaded.design.model.ownedBy id) →
      ElementKind.ofValue (part.getD "kind" (.str "class")) = .ok kind' →
      Built document loaded kind' part child

/-- A part of a document and the draft that it was read as, which is placed in a model as a part of a
whole draft. -/
structure Stands (resolver : Resolver) (m : Model) (whole : Draft) (kind : ElementKind)
    (entries : Entries) (id : ElementId) (d : Draft) : Prop where
  read : ∃ usual ids ids', Draft.ofValue usual ids (.obj entries) = .ok (d, ids') ∧
    ElementKind.ofValue (entries.getD "kind" (.str usual)) = .ok kind
  placed : ∃ parent, d.PlacedAt resolver m parent id
  references : ∀ x ∈ d.references, x ∈ whole.references
  identified : ∀ x ∈ d.identified id, x ∈ whole.identified 0

end LoadedModel

namespace Draft

/-- The drafts in a list stand in their places, and what they hold is in the whole. -/
theorem forall₂_numbers {resolve : Resolver} {m : Model} {parent : Option ElementId}
    {next : ElementId} {ds : List Draft}
    (h : List.Forall₂ (fun d n => d.PlacedAt resolve m parent n) ds (numbers next ds)) :
    List.Forall₂ (fun d n => d.PlacedAt resolve m parent n ∧
      (∀ x ∈ d.references, x ∈ referencesAll ds) ∧
      ∀ x ∈ d.identified n, x ∈ identifiedAll next ds) ds (numbers next ds) := by
  induction ds generalizing next with
  | nil => exact .nil
  | cons d rest ih =>
    rw [numbers, List.forall₂_cons] at h
    rw [numbers, referencesAll, identifiedAll]
    refine .cons ⟨h.1, fun x hx => List.mem_append_left _ hx, fun x hx => List.mem_append_left _ hx⟩
      ((ih h.2).imp fun d n hd => ⟨hd.1, fun x hx => ?_, fun x hx => ?_⟩)
    · exact List.mem_append_right _ (hd.2.1 x hx)
    · exact List.mem_append_right _ (hd.2.2 x hx)

end Draft

namespace LoadedModel

variable {resolver : Resolver} {m : Model} {whole : Draft} {kind : ElementKind} {entries : Entries}
  {id : ElementId} {d : Draft}

/-- What a part lists as its elements stands where its element owns it. -/
theorem Stands.children {heading : Heading} {value : Value} {body : DraftBody}
    {children : List Draft}
    (s : Stands resolver m whole kind entries id (.node heading value body children)) :
    m.ownedBy id = Draft.numbers (id + 1 + body.size) children ∧
      (Draft.mayOwn kind = false ∧ children = [] ∨
        Draft.mayOwn kind = true ∧ ∃ items, Draft.itemsOf entries "elements" = .ok items ∧
          List.Forall₂ (fun v p => ∃ part kind', v = .obj part ∧
            ElementKind.ofValue (part.getD "kind" (.str "class")) = .ok kind' ∧
            Stands resolver m whole kind' part p.2 p.1) items (children.zip (m.ownedBy id))) := by
  obtain ⟨usual, ids, ids', hread, hkind⟩ := s.read
  obtain ⟨parent, placed⟩ := s.placed
  have wf := Draft.wellFormed_of_ofValue _ hread
  have owned := Model.orNone_eq_ok (Draft.orNone_owned?_of_placedAt wf placed)
  obtain ⟨es, k, heading', body', children', ids₁, he, hk, -, -, -, hd, hc⟩ :=
    Draft.ofValue_eq_ok hread
  cases he
  cases hd
  cases hkind.symm.trans hk
  refine ⟨owned, ?_⟩
  rcases hc with ⟨hno, rfl, -⟩ | ⟨own, items, hitems, hv⟩
  · exact Or.inl ⟨hno, rfl⟩
  · refine Or.inr ⟨own, items, hitems, ?_⟩
    rw [owned]
    have hchildren := Draft.forall₂_numbers (Draft.placedAt_node.mp placed).2.2
    refine (Outcome.forall₂_zip_right (Draft.ofValues_eq_ok hv) hchildren).imp ?_
    rintro v ⟨d', child⟩ ⟨⟨cids, cids', hd'⟩, hp, hrefs, hidentified⟩
    obtain ⟨part, kind', _, _, _, _, rfl, hk', -, -, -, -, -⟩ := Draft.ofValue_eq_ok hd'
    refine ⟨part, kind', rfl, hk', ⟨"class", cids, cids', hd', hk'⟩, ⟨_, hp⟩,
      fun x hx => s.references x ?_, fun x hx => s.identified x ?_⟩
    · rw [Draft.references]
      exact List.mem_append_right _ (hrefs x hx)
    · rw [Draft.identified]
      exact List.mem_append_right _ (hidentified x hx)

theorem Stands.owned (s : Stands resolver m whole kind entries id d)
    (own : Draft.mayOwn kind = true) :
    ∃ items, Draft.itemsOf entries "elements" = .ok items ∧
      List.Forall₂ (fun v child => ∃ part kind' d', v = .obj part ∧
        ElementKind.ofValue (part.getD "kind" (.str "class")) = .ok kind' ∧
        Stands resolver m whole kind' part child d') items (m.ownedBy id) := by
  obtain ⟨heading, value, body, children⟩ := d
  obtain ⟨owned, ⟨hno, -⟩ | ⟨-, items, hitems, h⟩⟩ := s.children
  · rw [own] at hno
    cases hno
  · have hlength : (m.ownedBy id).length = children.length := by
      rw [owned, Draft.length_numbers]
    refine ⟨items, hitems, ?_⟩
    rw [← List.map_snd_zip (Nat.le_of_eq hlength), List.forall₂_map_right_iff]
    exact h.imp fun v p ⟨part, kind', hv, hk, s'⟩ => ⟨part, kind', p.1, hv, hk, s'⟩

section

variable {document : Value} {whole : Draft} {index : ReferenceIndex} {items : List Value}
  {loaded : LoadedModel} {es : Entries}

/-- The model that a document became holds its draft. -/
theorem ReadFrom.placed (r : ReadFrom document es whole index resolver items loaded) :
    whole.PlacedAt resolver loaded.design.model none 0 ∧ whole.size ≤ loaded.design.model.size := by
  have larger := addRelationships_extends r.design_eq
  have hsize := Draft.size_toModel resolver whole
  refine ⟨larger.holds ?_ (Draft.placedAt_toModel resolver whole), hsize ▸ larger.1⟩
  rw [Draft.length_place, Nat.zero_add]
  exact Nat.le_of_eq hsize.symm

theorem ReadFrom.stands (r : ReadFrom document es whole index resolver items loaded)
    (he : document = .obj entries)
    (hk : ElementKind.ofValue (entries.getD "kind" (.str "package")) = .ok kind) :
    Stands resolver loaded.design.model whole kind entries loaded.root whole := by
  obtain ⟨ids, hd⟩ := r.draft_eq
  rw [he] at hd
  rw [r.root_eq]
  exact ⟨⟨"package", [], ids, hd, hk⟩, ⟨none, r.placed.1⟩, fun _ hx => hx, fun _ hx => hx⟩

/-- What was built from a part stands where its draft is placed. -/
theorem Built.stands (r : ReadFrom document es whole index resolver items loaded)
    (b : Built document loaded kind entries id) :
    ∃ d, Stands resolver loaded.design.model whole kind entries id d := by
  induction b with
  | root he hk => exact ⟨whole, r.stands he hk⟩
  | owned _ own hitems hmem hk ih =>
    obtain ⟨d, s⟩ := ih
    obtain ⟨items', hitems', hforall⟩ := s.owned own
    cases hitems.symm.trans hitems'
    obtain ⟨part, kind', d', hv, hk', s'⟩ := List.forall₂_zip hforall hmem
    cases hv
    cases hk.symm.trans hk'
    exact ⟨d', s'⟩

/-- Each part that is listed became the element that is owned in its place. -/
theorem Built.forall₂_owned (r : ReadFrom document es whole index resolver items loaded)
    (b : Built document loaded kind entries id) (own : Draft.mayOwn kind = true) :
    ∃ listed, Draft.itemsOf entries "elements" = .ok listed ∧
      List.Forall₂ (fun v child => ∃ part kind', v = .obj part ∧
        Built document loaded kind' part child) listed (loaded.design.model.ownedBy id) := by
  obtain ⟨d, s⟩ := b.stands r
  obtain ⟨listed, hlisted, h⟩ := s.owned own
  refine ⟨listed, hlisted, List.forall₂_iff_zip.mpr ⟨h.length_eq, fun {v child} hmem => ?_⟩⟩
  obtain ⟨part, kind', d', rfl, hk', -⟩ := List.forall₂_zip h hmem
  exact ⟨part, kind', rfl, b.owned own hlisted hmem hk'⟩

mutual

/-- An id that was noted was given to a part that became its element. -/
theorem built_of_identified : ∀ (d : Draft) {kind : ElementKind} {entries : Entries}
    {id : ElementId}, Stands resolver loaded.design.model whole kind entries id d →
      Built document loaded kind entries id → ∀ x ∈ d.identified id, ∃ kind' part,
        Built document loaded kind' part x.2 ∧ part.getD "id" .null = x.1
  | .node heading value body children, kind, entries, id, s, b, x, hx => by
    obtain ⟨usual, ids, ids', hread, -⟩ := s.read
    obtain ⟨_, _, _, _, _, _, he, -, -, -, -, hd, -⟩ := Draft.ofValue_eq_ok hread
    cases he
    cases hd
    rw [Draft.identified] at hx
    rcases List.mem_append.mp hx with hx | hx
    · split at hx
      · exact absurd hx List.not_mem_nil
      · rw [List.mem_singleton.mp hx]
        exact ⟨kind, entries, b, rfl⟩
    · obtain ⟨owned, ⟨-, rfl⟩ | ⟨own, listed, hlisted, h⟩⟩ := s.children
      · exact absurd hx List.not_mem_nil
      · refine built_of_identifiedAll children (fun p hp => ?_) x hx
        rw [← owned] at hp
        have hlength : (loaded.design.model.ownedBy id).length = children.length := by
          rw [owned, Draft.length_numbers]
        have hsnd := List.map_snd_zip (Nat.le_of_eq hlength)
        obtain ⟨v, hmem⟩ : ∃ v, (v, p) ∈ listed.zip (children.zip
            (loaded.design.model.ownedBy id)) := by
          rw [← List.map_snd_zip (Nat.le_of_eq h.length_eq.symm)] at hp
          obtain ⟨⟨v, q⟩, hq, rfl⟩ := List.mem_map.mp hp
          exact ⟨v, hq⟩
        obtain ⟨part, kind', rfl, hk, s'⟩ := List.forall₂_zip h hmem
        refine ⟨kind', part, s', b.owned own hlisted ?_ hk⟩
        rw [← hsnd, List.zip_map_right]
        exact List.mem_map.mpr ⟨_, hmem, rfl⟩

theorem built_of_identifiedAll : ∀ (ds : List Draft) {next : ElementId},
    (∀ p ∈ ds.zip (Draft.numbers next ds), ∃ kind part,
      Stands resolver loaded.design.model whole kind part p.2 p.1 ∧
      Built document loaded kind part p.2) →
      ∀ x ∈ Draft.identifiedAll next ds, ∃ kind' part,
        Built document loaded kind' part x.2 ∧ part.getD "id" .null = x.1
  | [], _, _, x, hx => absurd hx List.not_mem_nil
  | d :: rest, next, h, x, hx => by
    rw [Draft.numbers, List.zip_cons_cons] at h
    obtain ⟨⟨kind, part, s, b⟩, hrest⟩ := List.forall_mem_cons.mp h
    rw [Draft.identifiedAll] at hx
    rcases List.mem_append.mp hx with hx | hx
    · exact built_of_identified d s b x hx
    · exact built_of_identifiedAll rest hrest x hx

end

end

end LoadedModel

end GosuForge
