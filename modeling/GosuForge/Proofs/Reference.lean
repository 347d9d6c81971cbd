import GosuForge.Document.Reference
import GosuForge.Proofs.Outcome

/-!
# What a reference names

A text is looked up among the ids first, then among the qualified names, of which the first in the
tree counts, and then among the simple names, of which there must be only one.
-/

namespace GosuForge

namespace Model

/-- Whether a text is the qualified name of an element. -/
def isQualified (m : Model) (name : String) (id : ElementId) : Bool :=
  match m.qualifiedName id with
  | .ok qualified => qualified == name
  | .error _ => false

/-- Whether a text is the simple name of an element. -/
def isCalled (m : Model) (name : String) (id : ElementId) : Bool :=
  match (m.get id).name with
  | .str simple => simple == name
  | _ => false

theorem isQualified_iff {m : Model} {name : String} {id : ElementId} :
    m.isQualified name id = true ↔ m.qualifiedName id = .ok name := by
  rw [isQualified]
  cases m.qualifiedName id with
  | error fault => simp
  | ok qualified => simp

theorem joinNames_str (sep : String) (texts : List String) :
    joinNames sep (texts.map .str) = .ok (Text.join sep texts) := by
  rw [joinNames]
  refine Outcome.bind_eq_ok.mpr ⟨texts, ?_, rfl⟩
  rw [Outcome.mapM_eq_ok, List.forall₂_map_left_iff]
  exact List.forall₂_same.mpr fun _ _ => rfl

end Model

namespace ReferenceIndex

variable {m : Model}

theorem namesOf_eq_ok {id : ElementId} {names : String × String}
    (h : namesOf m id = .ok names) :
    m.qualifiedName id = .ok names.1 ∧ (m.get id).name = .str names.2 := by
  rw [namesOf, Outcome.bind_eq_ok] at h
  obtain ⟨qualified, hq, h⟩ := h
  split at h
  · rename_i simple hs
    cases h
    exact ⟨hq, hs⟩
  · cases h

theorem lookup_qualified {below : List ElementId} {names : List (String × String)}
    (h : List.Forall₂ (fun id n => namesOf m id = .ok n) below names) (name : String) :
    ((names.map (·.1)).zip below).lookup name = below.find? (m.isQualified name) := by
  induction h with
  | nil => rfl
  | @cons id n _ _ hn _ ih =>
    have hq : m.isQualified name id = (n.1 == name) := by
      rw [Model.isQualified, (namesOf_eq_ok hn).1]
    rw [List.map_cons, List.zip_cons_cons, List.lookup_cons, List.find?_cons, hq, ih, BEq.comm]

theorem filter_simple {below : List ElementId} {names : List (String × String)}
    (h : List.Forall₂ (fun id n => namesOf m id = .ok n) below names) (name : String) :
    (((names.map (·.2)).zip below).filter fun (n, _) => n == name).map Prod.snd =
      below.filter (m.isCalled name) := by
  induction h with
  | nil => rfl
  | @cons id n _ _ hn _ ih =>
    have hs : m.isCalled name id = (n.2 == name) := by
      rw [Model.isCalled, (namesOf_eq_ok hn).2]
    rw [List.map_cons, List.zip_cons_cons, List.filter_cons, List.filter_cons, hs]
    cases hc : n.2 == name
    · simpa [hc] using ih
    · simpa [hc] using ih

/-- The element that alone has a simple name. -/
def only : List ElementId → Option ElementId
  | [id] => some id
  | _ => none

theorem only_eq_some {ids : List ElementId} {id : ElementId} :
    only ids = some id ↔ ids = [id] := by
  rcases ids with _ | ⟨first, _ | ⟨second, rest⟩⟩ <;> simp [only]

/-- What a text names: an id, else the first qualified name, else a simple name that stands alone. -/
def named (ids : List (Value × ElementId)) (m : Model) (below : List ElementId) (name : String) :
    Option ElementId :=
  ((ids.find? fun (id, _) => id.sameKey (.str name)).map (·.2)).or
    ((below.find? (m.isQualified name)).or (only (below.filter (m.isCalled name))))

/-- A text is looked up in the names of the elements below the root of the tree. -/
theorem lookup_str {root : ElementId} {ids : List (Value × ElementId)} {index : ReferenceIndex}
    (h : ofTree m root ids = .ok index) :
    ∃ below, m.elementsBelow root = .ok below ∧
      ∀ name : String, index.lookup (.str name) = .ok (named ids m below name) := by
  rw [ofTree, Outcome.bind_eq_ok] at h
  obtain ⟨below, hb, h⟩ := h
  obtain ⟨names, hn, h⟩ := Outcome.bind_eq_ok.mp h
  cases h
  rw [Outcome.mapM_eq_ok] at hn
  refine ⟨below, hb, fun name => ?_⟩
  have hsimple : bySimpleName ⟨ids, (names.map (·.1)).zip below, (names.map (·.2)).zip below⟩ name =
      only (below.filter (m.isCalled name)) := by
    rw [bySimpleName, ← filter_simple hn name]
    dsimp only
    generalize ((names.map (·.2)).zip below).filter (fun (n, _) => n == name) = found
    rcases found with _ | ⟨⟨n, id⟩, _ | ⟨second, rest⟩⟩ <;> rfl
  have hkey : (Value.str name).isKey = true := rfl
  rw [lookup, if_pos hkey, byName, lookup_qualified hn, hsimple]
  rfl

end ReferenceIndex

end GosuForge
