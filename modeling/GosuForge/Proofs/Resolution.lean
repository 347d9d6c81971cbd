import GosuForge.Proofs.Built
import GosuForge.Proofs.Reference

/-!
# References in loaded models

A loaded model is asked for what a text names, and everything that its document refers to by a text is
the element that the model then answers.

* `LoadedModel.Meant`: what a text names in a loaded model;
* `LoadedModel.TypeFound`, `LoadedModel.RelationshipFound`: what was referred to is what is found;
* `LoadedModel.Resolved`: both for a whole document.
-/

namespace GosuForge

namespace Model

def attributesOf (m : Model) (id : ElementId) : List ElementId :=
  ((m.get id).attributes?.bind Members.ids?).getD []

def operationsOf (m : Model) (id : ElementId) : List ElementId :=
  ((m.get id).operations?.bind Members.ids?).getD []

def literalsOf (m : Model) (id : ElementId) : List ElementId :=
  ((m.get id).literals?.bind Members.ids?).getD []

def parametersOf (m : Model) (id : ElementId) : List ElementId :=
  match (m.get id).content with
  | .operation parameters => parameters
  | _ => []

end Model

namespace LoadedModel

/-- How references are looked up. -/
abbrev Lookup := Value → Except Fault (Option ElementId)

/-- A type that was given by a reference is the element that the reference names. -/
def TypeFound (find : Lookup) (m : Model) (item : Value) (member : ElementId) : Prop :=
  ∀ (entries type : Entries) (reference : Value), item = .obj entries →
    entries.getD "type" .null = .obj type → type.get? "$ref" = some reference →
    ∃ t, (m.get member).type? = some (.element t) ∧ find reference = .ok (some t)

/-- An association end stands at the element that its reference names. -/
def EndFound (find : Lookup) (m : Model) (item : Value) (id : ElementId) : Prop :=
  ∃ (entries : Entries) (reference : Value) (t : ElementId), item = .obj entries ∧
    entries.get? "reference" = some reference ∧ (m.get id).reference? = some (.element t) ∧
    find reference = .ok (some t)

/-- A relationship joins the elements that its references name. -/
inductive RelationshipFound (find : Lookup) (m : Model) (item : Value) : Relationship → Prop
  | directed {entries : Entries} {word : String} {kind : DirectedKind} {name source target : Value}
      {a b : ElementId} : item = .obj entries →
      kindOf (entries.getD "kind" .null) = .ok (.directed word kind) →
      entries.get? "source" = some source → entries.get? "target" = some target →
      find source = .ok (some a) → find target = .ok (some b) →
      RelationshipFound find m item (.directed kind name (some a) (some b))
  | association {entries : Entries} {name : Value} {end1 end2 : ElementId} : item = .obj entries →
      kindOf (entries.getD "kind" .null) = .ok .association →
      EndFound find m (entries.getD "end1" (.obj [])) end1 →
      EndFound find m (entries.getD "end2" (.obj [])) end2 →
      RelationshipFound find m item (.association name end1 end2)

/-! ## Relationships -/

theorem resolve_eq_ok {index : ReferenceIndex} {reference : Value} {missing : ModelDefect}
    {id : ElementId} (h : index.resolve reference missing = .ok id) :
    index.lookup reference = .ok (some id) := by
  rw [ReferenceIndex.resolve, Outcome.bind_eq_ok] at h
  obtain ⟨found, hf, h⟩ := h
  cases found with
  | none => cases h
  | some found =>
    cases h
    exact hf

theorem endOf_eq_ok {index : ReferenceIndex} {v : Value} {e : Element}
    (h : endOf index v = .ok e) : ∃ (entries : Entries) (reference : Value) (t : ElementId),
      v = .obj entries ∧ entries.get? "reference" = some reference ∧
      e.reference? = some (.element t) ∧ index.lookup reference = .ok (some t) := by
  rw [endOf, Outcome.bind_eq_ok] at h
  obtain ⟨entries, he, h⟩ := h
  obtain ⟨heading, -, h⟩ := Outcome.bind_eq_ok.mp h
  have hv := Draft.entriesOf_eq_ok.mp he
  split at h
  · cases h
  · rename_i reference hr
    obtain ⟨t, ht, h⟩ := Outcome.bind_eq_ok.mp h
    cases h
    exact ⟨entries, reference, t, hv, hr, rfl, resolve_eq_ok ht⟩

/-- An element that stands at something is still there when elements are added. -/
theorem EndFound.of_extends {find : Lookup} {m m' : Model} {item : Value} {id : ElementId}
    (h : EndFound find m item id) (hm : m.Extends m') : EndFound find m' item id := by
  obtain ⟨entries, reference, t, hi, hr, ht, hf⟩ := h
  have hid : id < m.size := by
    by_contra hid
    rw [Model.get_of_size_le (Nat.le_of_not_lt hid)] at ht
    cases ht
  exact ⟨entries, reference, t, hi, hr, by rwa [hm.2 id hid], hf⟩

theorem RelationshipFound.of_extends {find : Lookup} {m m' : Model} {item : Value}
    {relationship : Relationship} (h : RelationshipFound find m item relationship)
    (hm : m.Extends m') : RelationshipFound find m' item relationship := by
  cases h with
  | directed he hk hs ht ha hb => exact .directed he hk hs ht ha hb
  | association he hk h1 h2 => exact .association he hk (h1.of_extends hm) (h2.of_extends hm)

theorem joined_eq_ok {entries : Entries} {word key : String} {v : Value}
    (h : joined entries word key = .ok v) : entries.get? key = some v := by
  rw [joined] at h
  split at h
  · rename_i found hf
    cases h
    exact hf
  · cases h

/-- A relationship that is added joins what its references name. -/
theorem addRelationship_eq_ok {index : ReferenceIndex} {d d' : Design} {v : Value}
    (h : addRelationship index d v = .ok d') : ∃ relationship,
      d'.relationships = d.relationships ++ [relationship] ∧
      RelationshipFound index.lookup d'.model v relationship := by
  rw [addRelationship, Outcome.bind_eq_ok] at h
  obtain ⟨entries, he, h⟩ := h
  obtain ⟨kind, hk, h⟩ := Outcome.bind_eq_ok.mp h
  have hv := Draft.entriesOf_eq_ok.mp he
  cases kind with
  | association =>
    obtain ⟨end1, h1, h⟩ := Outcome.bind_eq_ok.mp h
    obtain ⟨end2, h2, h⟩ := Outcome.bind_eq_ok.mp h
    cases h
    obtain ⟨es1, r1, t1, hi1, hr1, ht1, hl1⟩ := endOf_eq_ok h1
    obtain ⟨es2, r2, t2, hi2, hr2, ht2, hl2⟩ := endOf_eq_ok h2
    refine ⟨_, rfl, .association hv hk ?_ ⟨es2, r2, t2, hi2, hr2, ?_, hl2⟩⟩
    · refine EndFound.of_extends ⟨es1, r1, t1, hi1, hr1, ?_, hl1⟩ (Model.extends_push _ _)
      rwa [Model.get_push]
    · have hnext : d.model.next + 1 = (d.model.push end1).next := by
        simp [Model.next, Model.size, Model.push]
      rwa [hnext, Model.get_push]
  | directed word kind =>
    obtain ⟨source, hs, h⟩ := Outcome.bind_eq_ok.mp h
    obtain ⟨target, ht, h⟩ := Outcome.bind_eq_ok.mp h
    obtain ⟨a, ha, h⟩ := Outcome.bind_eq_ok.mp h
    obtain ⟨b, hb, h⟩ := Outcome.bind_eq_ok.mp h
    cases h
    exact ⟨_, rfl, .directed hv hk (joined_eq_ok hs) (joined_eq_ok ht) (resolve_eq_ok ha)
      (resolve_eq_ok hb)⟩

theorem addRelationships_eq_ok {index : ReferenceIndex} {items : List Value} {d d' : Design}
    (h : addRelationships index d items = .ok d') : ∃ added,
      d'.relationships = d.relationships ++ added ∧
      List.Forall₂ (RelationshipFound index.lookup d'.model) items added := by
  induction items generalizing d with
  | nil =>
    cases h
    exact ⟨[], (List.append_nil _).symm, .nil⟩
  | cons v rest ih =>
    rw [addRelationships, Outcome.bind_eq_ok] at h
    obtain ⟨next, hv, h⟩ := h
    obtain ⟨relationship, hr, hfound⟩ := addRelationship_eq_ok hv
    obtain ⟨added, ha, hrest⟩ := ih h
    refine ⟨relationship :: added, ?_, .cons (hfound.of_extends (addRelationships_extends h)) hrest⟩
    rw [ha, hr, List.append_assoc]
    rfl

/-! ## Types -/

theorem checkTypes_eq_ok {index : ReferenceIndex} {references : List (Value × Value)}
    (h : checkTypes index references = .ok ()) :
    ∀ x ∈ references, ∃ t, index.lookup x.1 = .ok (some t) := by
  induction references with
  | nil => exact fun x hx => absurd hx List.not_mem_nil
  | cons x rest ih =>
    rw [checkTypes, Outcome.bind_eq_ok] at h
    obtain ⟨t, ht, h⟩ := h
    exact List.forall_mem_cons.mpr ⟨⟨t, resolve_eq_ok ht⟩, ih h⟩

theorem typingOf_reference {entries type : Entries} {owner reference : Value} {t : DraftTyping}
    (h : Draft.typingOf entries owner = .ok t) (ht : entries.getD "type" .null = .obj type)
    (hr : type.get? "$ref" = some reference) : t.type = .reference reference := by
  rw [Draft.typingOf, Outcome.bind_eq_ok] at h
  obtain ⟨found, hf, h⟩ := h
  cases h
  rw [Draft.typeOf, ht] at hf
  simp only [hr] at hf
  cases hf
  rfl

/-- A type that was read and placed is the one that is found, if all references of it are. -/
theorem typeFound_of_place {index : ReferenceIndex} {m : Model} {item : Value} {member : ElementId}
    {typing : DraftTyping}
    (read : ∀ entries, item = .obj entries → ∃ owner, Draft.typingOf entries owner = .ok typing)
    (placed : (m.get member).type? =
      some (typing.place fun r => (index.lookup r).toOption.join).type)
    (found : ∀ reference, typing.type = .reference reference →
      ∃ t, index.lookup reference = .ok (some t)) :
    TypeFound index.lookup m item member := by
  intro entries type reference hi ht hr
  obtain ⟨owner, howner⟩ := read entries hi
  have href := typingOf_reference howner ht hr
  obtain ⟨t, hl⟩ := found reference href
  refine ⟨t, ?_, hl⟩
  rw [placed, DraftTyping.place]
  simp only [href, hl]
  rfl

theorem attributeOf_eq_ok {item : Value} {a : DraftAttribute}
    (h : Draft.attributeOf item = .ok a) (entries : Entries) (hi : item = .obj entries) :
    ∃ owner, Draft.typingOf entries owner = .ok a.typing := by
  subst hi
  obtain ⟨es, he, h⟩ := Outcome.bind_eq_ok.mp h
  cases he
  obtain ⟨heading, -, h⟩ := Outcome.bind_eq_ok.mp h
  obtain ⟨typing, ht, h⟩ := Outcome.bind_eq_ok.mp h
  cases h
  exact ⟨heading.name, ht⟩

theorem parameterOf_eq_ok {item : Value} {p : DraftParameter}
    (h : Draft.parameterOf item = .ok p) (entries : Entries) (hi : item = .obj entries) :
    ∃ owner, Draft.typingOf entries owner = .ok p.typing := by
  subst hi
  obtain ⟨es, he, h⟩ := Outcome.bind_eq_ok.mp h
  cases he
  obtain ⟨heading, -, h⟩ := Outcome.bind_eq_ok.mp h
  obtain ⟨typing, ht, h⟩ := Outcome.bind_eq_ok.mp h
  dsimp only at h
  split at h
  · cases h
    exact ⟨heading.name, ht⟩
  · cases h

theorem operationOf_eq_ok {item : Value} {o : DraftOperation}
    (h : Draft.operationOf item = .ok o) : ∃ (entries : Entries) (parameters : List Value),
      item = .obj entries ∧ Draft.itemsOf entries "parameters" = .ok parameters ∧
      List.Forall₂ (fun v p => Draft.parameterOf v = .ok p) parameters o.parameters := by
  obtain ⟨entries, he, h⟩ := Outcome.bind_eq_ok.mp h
  obtain ⟨heading, -, h⟩ := Outcome.bind_eq_ok.mp h
  obtain ⟨parameters, hp, h⟩ := Outcome.bind_eq_ok.mp h
  obtain ⟨read, hr, h⟩ := Outcome.bind_eq_ok.mp h
  cases h
  exact ⟨entries, parameters, Draft.entriesOf_eq_ok.mp he, hp, Outcome.mapM_eq_ok.mp hr⟩

theorem classifierOf_eq_ok {sort : ClassifierSort} {entries : Entries} {c : DraftClassifier}
    (h : Draft.classifierOf sort entries = .ok c) : ∃ attributes operations,
      Draft.itemsOf entries "attributes" = .ok attributes ∧
      List.Forall₂ (fun v a => Draft.attributeOf v = .ok a) attributes c.attributes ∧
      Draft.itemsOf entries "operations" = .ok operations ∧
      List.Forall₂ (fun v o => Draft.operationOf v = .ok o) operations c.operations := by
  obtain ⟨attributes, ha, h⟩ := Outcome.bind_eq_ok.mp h
  obtain ⟨as, has, h⟩ := Outcome.bind_eq_ok.mp h
  obtain ⟨operations, ho, h⟩ := Outcome.bind_eq_ok.mp h
  obtain ⟨os, hos, h⟩ := Outcome.bind_eq_ok.mp h
  have lists : c.attributes = as ∧ c.operations = os := by
    dsimp only at h
    split at h
    · obtain ⟨literals, -, h⟩ := Outcome.bind_eq_ok.mp h
      obtain ⟨ls, -, h⟩ := Outcome.bind_eq_ok.mp h
      cases h
      exact ⟨rfl, rfl⟩
    · obtain ⟨literals, -, h⟩ := Outcome.bind_eq_ok.mp h
      obtain ⟨ls, -, h⟩ := Outcome.bind_eq_ok.mp h
      cases h
      exact ⟨rfl, rfl⟩
  rw [lists.1, lists.2]
  exact ⟨attributes, operations, ha, Outcome.mapM_eq_ok.mp has, ho, Outcome.mapM_eq_ok.mp hos⟩

/-- A draft of a classifier stands as its element, its attributes and its operations. -/
theorem Stands.classifier {resolver : Resolver} {m : Model} {whole d : Draft}
    {sort : ClassifierSort} {entries : Entries} {id : ElementId}
    (s : Stands resolver m whole (.classifier sort) entries id d) :
    ∃ c, Draft.classifierOf sort entries = .ok c ∧
      (∀ x ∈ (DraftBody.classifier c).references, x ∈ whole.references) ∧
      List.Forall₂ (fun a n => m.get n =
        a.heading.place (some id) (.attribute (a.typing.place resolver)))
        c.attributes (m.attributesOf id) ∧
      List.Forall₂ (fun o n => m.Holds n (o.place resolver id n)) c.operations
        (m.operationsOf id) := by
  obtain ⟨usual, ids, ids', hread, hkind⟩ := s.read
  obtain ⟨parent, placed⟩ := s.placed
  obtain ⟨es, k, heading, body, children, ids₁, he, hk, -, hb, -, rfl, -⟩ :=
    Draft.ofValue_eq_ok hread
  cases he
  cases hkind.symm.trans hk
  obtain ⟨c, hc, rfl⟩ := Outcome.map_eq_ok.mp hb
  obtain ⟨hget, hmembers, -⟩ := Draft.placedAt_node.mp placed
  rw [DraftBody.place, DraftClassifier.place, Model.holds_append, Model.holds_append,
    Model.holds_map, List.length_map, DraftOperation.holds_placeAll] at hmembers
  refine ⟨c, hc, fun x hx => s.references x ?_, ?_, ?_⟩
  · rw [Draft.references]
    exact List.mem_append_left _ hx
  · have hattributes : m.attributesOf id = List.range' (id + 1) c.attributes.length := by
      rw [Model.attributesOf, hget]
      rfl
    rw [hattributes]
    exact hmembers.1.1
  · have hoperations : m.operationsOf id =
        DraftOperation.numbers (id + 1 + c.attributes.length) c.operations := by
      rw [Model.operationsOf, hget]
      rfl
    rw [hoperations]
    exact hmembers.1.2

/-- The parameters of an operation stand behind it. -/
theorem forall₂_parameters {resolver : Resolver} {m : Model} {owner id : ElementId}
    {o : DraftOperation} (h : m.Holds id (o.place resolver owner id)) :
    List.Forall₂ (fun p n => m.get n =
      p.heading.place (some id) (.parameter (p.typing.place resolver) p.direction))
      o.parameters (m.parametersOf id) := by
  obtain ⟨hget, hparameters⟩ := Model.holds_cons.mp h
  have hnumbers : m.parametersOf id = List.range' (id + 1) o.parameters.length := by
    rw [Model.parametersOf, hget]
    rfl
  rw [hnumbers]
  exact Model.holds_map.mp hparameters

section

variable {document : Value} {whole : Draft} {index : ReferenceIndex} {resolver : Resolver}
  {items : List Value} {loaded : LoadedModel} {es entries : Entries} {sort : ClassifierSort}
  {id : ElementId}

/-- All attributes and parameters that were given a type by a reference have the element that is
found. -/
theorem ReadFrom.typesFound (r : ReadFrom document es whole index resolver items loaded)
    (b : Built document loaded (.classifier sort) entries id) :
    ∃ attributes operations, Draft.itemsOf entries "attributes" = .ok attributes ∧
      List.Forall₂ (TypeFound index.lookup loaded.design.model) attributes
        (loaded.design.model.attributesOf id) ∧
      Draft.itemsOf entries "operations" = .ok operations ∧
      List.Forall₂ (fun item operation => ∃ (part : Entries) (parameters : List Value),
        item = .obj part ∧ Draft.itemsOf part "parameters" = .ok parameters ∧
        List.Forall₂ (TypeFound index.lookup loaded.design.model) parameters
          (loaded.design.model.parametersOf operation)) operations
        (loaded.design.model.operationsOf id) := by
  obtain ⟨d, s⟩ := b.stands r
  obtain ⟨c, hc, hrefs, hattributes, hoperations⟩ := s.classifier
  obtain ⟨attributes, operations, ha, has, ho, hos⟩ := classifierOf_eq_ok hc
  have found (x) (hx : x ∈ (DraftBody.classifier c).references) :
      ∃ t, index.lookup x.1 = .ok (some t) := checkTypes_eq_ok r.types x (hrefs x hx)
  refine ⟨attributes, operations, ha, ?_, ho, ?_⟩
  · refine (Outcome.forall₂_comp has hattributes).imp ?_
    rintro item n ⟨a, ha, hread, hget⟩
    refine typeFound_of_place (attributeOf_eq_ok hread) ?_ fun reference href => ?_
    · rw [hget, r.resolver_eq]
      rfl
    · refine found (reference, a.heading.name) (List.mem_append_left _ ?_)
      exact List.mem_flatMap.mpr ⟨a, ha, by simp [href]⟩
  · refine (Outcome.forall₂_comp hos hoperations).imp ?_
    rintro item n ⟨o, ho, hread, hholds⟩
    obtain ⟨part, parameters, hi, hp, hps⟩ := operationOf_eq_ok hread
    refine ⟨part, parameters, hi, hp, ?_⟩
    refine (Outcome.forall₂_comp hps (forall₂_parameters hholds)).imp ?_
    rintro item' n' ⟨p, hp, hread', hget⟩
    refine typeFound_of_place (parameterOf_eq_ok hread') ?_ fun reference href => ?_
    · rw [hget, r.resolver_eq]
      rfl
    · refine found (reference, p.heading.name) (List.mem_append_right _ ?_)
      exact List.mem_flatMap.mpr ⟨o, ho, List.mem_flatMap.mpr ⟨p, hp, by simp [href]⟩⟩

/-! ## What a text names -/

/-- A key is the id that was given to a part, and the part became the element. -/
def Registered (document : Value) (loaded : LoadedModel) (key : Value) (id : ElementId) : Prop :=
  ∃ kind entries, Built document loaded kind entries id ∧ entries.getD "id" .null = key

/-- What a text names among the elements `below` the root of a loaded model. -/
inductive Meant (document : Value) (loaded : LoadedModel) (below : List ElementId)
    (name : String) : Option ElementId → Prop
  | byId {id : ElementId} : Registered document loaded (.str name) id →
      Meant document loaded below name (some id)
  | byQualifiedName {before after : List ElementId} {id : ElementId} :
      (∀ other, ¬ Registered document loaded (.str name) other) →
      below = before ++ id :: after → loaded.design.model.qualifiedName id = .ok name →
      (∀ other ∈ before, loaded.design.model.qualifiedName other ≠ .ok name) →
      Meant document loaded below name (some id)
  | bySimpleName {id : ElementId} :
      (∀ other, ¬ Registered document loaded (.str name) other) →
      (∀ other ∈ below, loaded.design.model.qualifiedName other ≠ .ok name) →
      below.filter (loaded.design.model.isCalled name) = [id] →
      Meant document loaded below name (some id)
  | nothing : (∀ other, ¬ Registered document loaded (.str name) other) →
      (∀ other ∈ below, loaded.design.model.qualifiedName other ≠ .ok name) →
      (∀ id, below.filter (loaded.design.model.isCalled name) ≠ [id]) →
      Meant document loaded below name none

theorem ReadFrom.wellFormed (r : ReadFrom document es whole index resolver items loaded) :
    whole.WellFormed := by
  obtain ⟨ids, hd⟩ := r.draft_eq
  exact Draft.wellFormed_of_ofValue whole hd

/-- The names of a loaded model are those that its document was read with. -/
theorem ReadFrom.ofTree_eq (r : ReadFrom document es whole index resolver items loaded) :
    ReferenceIndex.ofTree loaded.design.model 0 (whole.identified 0) = .ok index := by
  have hindex := r.index_eq
  rwa [Draft.ofTree_eq r.wellFormed (Draft.placedAt_toModel _ whole)
    (Nat.le_of_eq (Draft.size_toModel _ whole).symm),
    ← Draft.ofTree_eq r.wellFormed r.placed.1 r.placed.2] at hindex

theorem ReadFrom.find_eq (r : ReadFrom document es whole index resolver items loaded) :
    loaded.find = index.lookup := by
  funext reference
  rw [find, r.root_eq, r.ids_eq, r.ofTree_eq]
  rfl

/-- An id that was given to a part is noted with the element that the part became. -/
theorem ReadFrom.mem_identified (r : ReadFrom document es whole index resolver items loaded)
    {key : Value} (hk : key.isNull = false) (h : Registered document loaded key id) :
    (key, id) ∈ whole.identified 0 := by
  obtain ⟨kind, entries, b, rfl⟩ := h
  obtain ⟨d, s⟩ := b.stands r
  obtain ⟨usual, ids, ids', hread, -⟩ := s.read
  obtain ⟨_, _, heading, body, children, _, he, -, -, -, -, rfl, -⟩ := Draft.ofValue_eq_ok hread
  cases he
  refine s.identified _ ?_
  rw [Draft.identified, if_neg (by simp [hk])]
  exact List.mem_append_left _ List.mem_cons_self

theorem ReadFrom.registered_of_mem (r : ReadFrom document es whole index resolver items loaded)
    {x : Value × ElementId} (hx : x ∈ whole.identified 0) : Registered document loaded x.1 x.2 := by
  obtain ⟨ids, hd⟩ := r.draft_eq
  obtain ⟨entries, kind, _, _, _, _, he, hk, -, -, -, -, -⟩ := Draft.ofValue_eq_ok hd
  rw [← r.root_eq] at hx
  exact built_of_identified whole (r.stands he hk) (.root he hk) x hx

/-- A noted id is found with the element that it was noted with. -/
theorem ReadFrom.find?_identified (r : ReadFrom document es whole index resolver items loaded)
    {name : String} (h : (.str name, id) ∈ whole.identified 0) :
    (whole.identified 0).find? (fun (key, _) => key.sameKey (.str name)) = some (.str name, id) := by
  obtain ⟨ids, hd⟩ := r.draft_eq
  obtain ⟨hids, hdistinct⟩ := Draft.ids_of_ofValue whole 0 hd
  have distinct := hdistinct .nil
  rw [hids, List.nil_append, Draft.Distinct, List.pairwise_map] at distinct
  have same : (Value.str name).sameKey (.str name) = true := Value.sameKey_str.mpr rfl
  obtain ⟨before, after, he⟩ := List.append_of_mem h
  rw [he] at distinct ⊢
  rw [List.find?_append, List.find?_eq_none.mpr, Option.none_or]
  · simp only [List.find?_cons, same]
  · intro x hx
    have different := (List.pairwise_append.mp distinct).2.2 x hx _ List.mem_cons_self
    simp only at different
    simp [different]

/-- What a loaded model finds, in the order in which it looks. -/
theorem ReadFrom.find_str (r : ReadFrom document es whole index resolver items loaded) :
    ∃ below, loaded.design.model.elementsBelow loaded.root = .ok below ∧ below.Nodup ∧
      ∀ name : String, loaded.find (.str name) =
        .ok (ReferenceIndex.named (whole.identified 0) loaded.design.model below name) := by
  obtain ⟨below, hb, hlookup⟩ := ReferenceIndex.lookup_str r.ofTree_eq
  have nodup : below.Nodup := by
    rw [Draft.elementsBelow_eq r.wellFormed r.placed.1 r.placed.2] at hb
    cases hb
    exact (Draft.nodes_ascending [] whole 0).2.imp Nat.ne_of_lt
  exact ⟨below, by rwa [r.root_eq], nodup, fun name =>
    (congrFun r.find_eq _).trans (hlookup name)⟩

theorem ReadFrom.find?_unregistered (r : ReadFrom document es whole index resolver items loaded)
    {name : String} (h : ∀ other, ¬ Registered document loaded (.str name) other) :
    (whole.identified 0).find? (fun (key, _) => key.sameKey (.str name)) = none := by
  refine List.find?_eq_none.mpr fun x hx hs => ?_
  have hr := r.registered_of_mem hx
  rw [Value.sameKey_str.mp hs] at hr
  exact h _ hr

theorem ReadFrom.meant (r : ReadFrom document es whole index resolver items loaded)
    (below : List ElementId) (name : String) :
    Meant document loaded below name
      (ReferenceIndex.named (whole.identified 0) loaded.design.model below name) := by
  rw [ReferenceIndex.named]
  by_cases hid : ∃ id, Registered document loaded (.str name) id
  · obtain ⟨id, hid⟩ := hid
    rw [r.find?_identified (r.mem_identified rfl hid)]
    exact .byId hid
  · have unregistered (other) : ¬ Registered document loaded (.str name) other :=
      fun h => hid ⟨other, h⟩
    rw [r.find?_unregistered unregistered, Option.map_none, Option.none_or]
    cases hq : below.find? (loaded.design.model.isQualified name) with
    | some id =>
      obtain ⟨hi, before, after, he, hbefore⟩ := List.find?_eq_some_iff_append.mp hq
      refine .byQualifiedName unregistered he (Model.isQualified_iff.mp hi) fun other ho hname => ?_
      simpa [Model.isQualified_iff.mpr hname] using hbefore other ho
    | none =>
      have unqualified (other) (ho : other ∈ below) :
          loaded.design.model.qualifiedName other ≠ .ok name :=
        fun hname => List.find?_eq_none.mp hq other ho (Model.isQualified_iff.mpr hname)
      rw [Option.none_or]
      cases ho : ReferenceIndex.only (below.filter (loaded.design.model.isCalled name)) with
      | some id => exact .bySimpleName unregistered unqualified (ReferenceIndex.only_eq_some.mp ho)
      | none =>
        refine .nothing unregistered unqualified fun id hs => ?_
        rw [ReferenceIndex.only_eq_some.mpr hs] at ho
        cases ho

end

/-- In a loaded model a text names one element, and the model refers to nothing else by it. -/
structure Resolved (document : Value) (loaded : LoadedModel) : Prop where
  /-- A text names an element by its id, else by its qualified name, else by its simple name. -/
  find_meant : ∃ below, loaded.design.model.elementsBelow loaded.root = .ok below ∧ below.Nodup ∧
    ∀ name : String, ∃ found, loaded.find (.str name) = .ok found ∧
      Meant document loaded below name found
  find_registered : ∀ name id, Registered document loaded (.str name) id →
    loaded.find (.str name) = .ok (some id)
  find_qualified : ∀ before id after name,
    loaded.design.model.elementsBelow loaded.root = .ok (before ++ id :: after) →
    loaded.design.model.qualifiedName id = .ok name →
    (∀ other, ¬ Registered document loaded (.str name) other) →
    (∀ other ∈ before, loaded.design.model.qualifiedName other ≠ .ok name) →
    loaded.find (.str name) = .ok (some id)
  /-- The document became the root, and every part that is listed an element that is owned. -/
  root : ∃ kind entries, document = .obj entries ∧ Built document loaded kind entries loaded.root
  owned : ∀ kind entries id, Built document loaded kind entries id → Draft.mayOwn kind = true →
    ∃ listed, Draft.itemsOf entries "elements" = .ok listed ∧
      List.Forall₂ (fun v child => ∃ part kind', v = .obj part ∧
        Built document loaded kind' part child) listed (loaded.design.model.ownedBy id)
  /-- References to types of attributes and parameters. -/
  types : ∀ sort entries id, Built document loaded (.classifier sort) entries id →
    ∃ attributes operations, Draft.itemsOf entries "attributes" = .ok attributes ∧
      List.Forall₂ (TypeFound loaded.find loaded.design.model) attributes
        (loaded.design.model.attributesOf id) ∧
      Draft.itemsOf entries "operations" = .ok operations ∧
      List.Forall₂ (fun item operation => ∃ (part : Entries) (parameters : List Value),
        item = .obj part ∧ Draft.itemsOf part "parameters" = .ok parameters ∧
        List.Forall₂ (TypeFound loaded.find loaded.design.model) parameters
          (loaded.design.model.parametersOf operation)) operations
        (loaded.design.model.operationsOf id)
  /-- References of relationships. -/
  relationships : ∃ entries items, document = .obj entries ∧
    Draft.itemsOf entries "relationships" = .ok items ∧
    List.Forall₂ (RelationshipFound loaded.find loaded.design.model) items
      loaded.design.relationships

theorem resolved_of_ofDocument {document : Value} {loaded : LoadedModel}
    (h : ofDocument document = .ok loaded) : Resolved document loaded := by
  obtain ⟨es, whole, index, resolver, items, r⟩ := ofDocument_eq_ok h
  obtain ⟨below, hbelow, nodup, hfind⟩ := r.find_str
  refine ⟨⟨below, hbelow, nodup, fun name => ⟨_, hfind name, r.meant below name⟩⟩, ?_, ?_, ?_, ?_, ?_,
    ?_⟩
  · intro name id hid
    rw [hfind, ReferenceIndex.named, r.find?_identified (r.mem_identified rfl hid)]
    rfl
  · intro before id after name hb hq unregistered hbefore
    cases hbelow.symm.trans hb
    have hfirst : (before ++ id :: after).find? (loaded.design.model.isQualified name) = some id := by
      refine List.find?_eq_some_iff_append.mpr ⟨Model.isQualified_iff.mpr hq, before, after, rfl, ?_⟩
      intro other ho
      simpa using fun h => hbefore other ho (Model.isQualified_iff.mp h)
    rw [hfind, ReferenceIndex.named, r.find?_unregistered unregistered, hfirst]
    rfl
  · obtain ⟨ids, hd⟩ := r.draft_eq
    obtain ⟨entries, kind, _, _, _, _, he, hk, -, -, -, -, -⟩ := Draft.ofValue_eq_ok hd
    exact ⟨kind, entries, he, .root he hk⟩
  · exact fun kind entries id b own => b.forall₂_owned r own
  · intro sort entries id b
    rw [r.find_eq]
    exact r.typesFound b
  · obtain ⟨added, ha, hfound⟩ := addRelationships_eq_ok r.design_eq
    rw [List.nil_append] at ha
    rw [r.find_eq, ha]
    exact ⟨es, items, r.document_eq, r.items_eq, hfound⟩

/-- A package with the classes `A` and `B`, of which the first has the name of the second as its id. -/
def shadowing : Value :=
  .obj [("name", .str "m"),
    ("elements", .arr [
      .obj [("name", .str "A"), ("id", .str "B"),
        ("attributes", .arr [.obj [("name", .str "x"), ("type", .obj [("$ref", .str "B")])]]),
        ("operations", .arr [.obj [("name", .str "f"),
          ("parameters", .arr [.obj [("name", .str "p"), ("type", .obj [("$ref", .str "m.B")])]])]])],
      .obj [("name", .str "B")]]),
    ("relationships", .arr [
      .obj [("kind", .str "generalization"), ("source", .str "m.B"), ("target", .str "A")],
      .obj [("kind", .str "association"), ("end1", .obj [("reference", .str "B")]),
        ("end2", .obj [("reference", .str "m.B")])]])]

theorem resolved_shadowing : ∃ loaded, ofDocument shadowing = .ok loaded ∧
    Resolved shadowing loaded ∧ loaded.find (.str "B") = .ok (some 1) ∧
    loaded.find (.str "m.B") = .ok (some 5) ∧
    loaded.design.relationships = [.directed .generalization (.str "") (some 5) (some 1),
      .association (.str "") 6 7] := by
  have byId : (ofDocument shadowing >>= fun loaded => loaded.find (.str "B")) = .ok (some 1) := by
    rfl
  have byName : (ofDocument shadowing >>= fun loaded => loaded.find (.str "m.B")) =
      .ok (some 5) := by
    rfl
  have joined : (ofDocument shadowing).map (·.design.relationships) =
      .ok [.directed .generalization (.str "") (some 5) (some 1),
        .association (.str "") 6 7] := by
    rfl
  obtain ⟨loaded, h, hb⟩ := Outcome.bind_eq_ok.mp byId
  rw [h] at byName joined
  exact ⟨loaded, h, resolved_of_ofDocument h, hb, byName, Except.ok.inj joined⟩

end LoadedModel

end GosuForge
