import GosuForge.Proofs.Outcome
import GosuForge.Proofs.Visit
import Mathlib.Data.List.Flatten

/-!
# What encloses the elements of a tree

A run goes down from a root and joins the name of each package to the directory; package names are
read upwards, from an element to the root. Both see the same names where each element of the tree is
known as what encloses those that it owns.

* `Model.Spans.below_of_mem`: what is below an element of a tree;
* `Model.Encloses`: elements are known as what encloses those that they own;
* `Model.Reached.exists_names`: the names in the directory of a visit are its package path.
-/

namespace GosuForge.Model

variable {m : Model}

/-! ## Walks from elements of a tree -/

/-- A walk that ends without a fault meets the same at any greater depth. -/
theorem walk_of_le {fuel fuel' : Nat} {id : ElementId} {ids : List ElementId}
    (h : m.walk fuel id = (ids, none)) (hle : fuel ≤ fuel') : m.walk fuel' id = (ids, none) := by
  induction fuel generalizing fuel' id ids with
  | zero => cases h
  | succ fuel ih =>
    obtain ⟨k, rfl⟩ : ∃ k, fuel' = k + 1 := ⟨fuel' - 1, by omega⟩
    obtain ⟨owned, children, rfl⟩ := walk_succ_eq.mp h
    have same (child : ElementId) (hc : child ∈ m.ownedBy id) :
        m.walk k child = ((m.walk fuel child).1, none) :=
      ih (Prod.ext rfl (children child hc)) (by omega)
    refine walk_succ_eq.mpr ⟨owned, fun child hc => by rw [same child hc], ?_⟩
    congr 1
    refine List.flatMap_congr fun child hc => ?_
    rw [same child hc]

theorem mem_walk {fuel : Nat} {id : ElementId} {ids : List ElementId}
    (h : m.walk fuel id = (ids, none)) : id ∈ ids := by
  cases fuel with
  | zero => cases h
  | succ fuel =>
    obtain ⟨-, -, rfl⟩ := walk_succ_eq.mp h
    exact List.mem_cons_self

/-- A walk from an element that was met meets a part of the whole. -/
theorem exists_walk_of_mem {fuel : Nat} {root id : ElementId} {ids : List ElementId}
    (h : m.walk fuel root = (ids, none)) (hid : id ∈ ids) :
    ∃ k ≤ fuel, ∃ part, m.walk k id = (part, none) ∧ part.Sublist ids := by
  induction fuel generalizing root ids with
  | zero => cases h
  | succ fuel ih =>
    obtain ⟨-, children, he⟩ := walk_succ_eq.mp h
    rw [he] at hid
    rcases List.mem_cons.mp hid with rfl | hid
    · exact ⟨fuel + 1, Nat.le_refl _, ids, h, List.Sublist.refl _⟩
    · obtain ⟨child, hc, hid⟩ := List.mem_flatMap.mp hid
      obtain ⟨k, hk, part, hw, hpart⟩ := ih (Prod.ext rfl (children child hc)) hid
      have below : (m.walk fuel child).1.Sublist
          ((m.ownedBy root).flatMap fun child => (m.walk fuel child).1) := by
        simpa using (List.singleton_sublist.mpr hc).flatMap fun child => (m.walk fuel child).1
      refine ⟨k, by omega, part, hw, ?_⟩
      rw [he]
      exact (hpart.trans below).cons root

section

variable {whole root id child : ElementId} {ids : List ElementId}

/-- What is below an element of a tree is a part of the tree. -/
theorem Spans.below_of_mem (h : m.Spans root ids) (hid : id ∈ ids) :
    ∃ part, m.Spans id part ∧ part.Sublist ids := by
  obtain ⟨k, hk, part, hw, hpart⟩ := exists_walk_of_mem h.walk_eq hid
  have below : m.elementsBelow id = .ok part := elementsBelow_eq_ok.mpr (walk_of_le hw hk)
  exact ⟨part, ⟨below, h.once.sublist hpart, fun i hi => h.proper i (hpart.subset hi)⟩, hpart⟩

theorem Spans.owned_mem (h : m.Spans root ids) (hid : id ∈ ids) (hc : child ∈ m.ownedBy id) :
    child ∈ ids := by
  obtain ⟨part, spans, hpart⟩ := h.below_of_mem hid
  obtain ⟨-, children, rfl⟩ := walk_succ_eq.mp spans.walk_eq
  refine hpart.subset (List.mem_cons_of_mem _ (List.mem_flatMap.mpr ⟨child, hc, ?_⟩))
  exact mem_walk (Prod.ext rfl (children child hc))

/-- What is below a root is what the root spans. -/
theorem Spans.mem_of_below (h : m.Spans root ids) (below : m.Below root id) : id ∈ ids := by
  induction below with
  | refl => exact mem_walk h.walk_eq
  | tail _ hc ih => exact h.owned_mem ih hc

/-! ## Names downwards and upwards -/

/-- Each of the elements is known as what encloses those that it owns. -/
def Encloses (m : Model) (ids : List ElementId) : Prop :=
  ∀ id ∈ ids, ∀ child ∈ m.ownedBy id, m.ancestors child = id :: m.ancestors id

/-- The package path of what an element owns goes on with the name of the element. -/
theorem packagePath_owned {path : List Value} (h : m.packagePath id (some root) = .ok path)
    (enclosed : m.ancestors child = id :: m.ancestors id) (other : child ≠ root)
    (proper : m.IsProper id) :
    m.packagePath child (some root) = .ok (path ++ [(m.get id).name]) := by
  have other' : some child ≠ some root := fun h => other (Option.some.inj h)
  rw [packagePath] at h
  rw [packagePath, if_neg other', enclosed, upTo]
  by_cases hr : some id = some root
  · rw [if_pos hr] at h ⊢
    cases h
    rw [namesOf, List.mapM_cons, proper.read_eq]
    rfl
  · rw [if_neg hr] at h ⊢
    obtain ⟨names, hn, rfl⟩ := Outcome.map_eq_ok.mp h
    rw [namesOf] at hn ⊢
    rw [List.mapM_cons, proper.read_eq, hn]
    simp [Except.map, bind, Except.bind, pure, Except.pure]

/-- What is visited in a directory has the names of the directory as its package path. -/
theorem Reached.exists_names {directory : Path} {v : Visit} (spans : m.Spans whole ids)
    (encloses : m.Encloses ids) (hroot : root ∈ ids) (h : m.Reached root directory v) :
    v.id ∈ ids ∧ ∃ names : List String, (∀ name ∈ names, name ≠ "") ∧
      v.directory = names.foldl Path.join directory ∧
      m.packagePath v.id (some root) = .ok (names.map .str) := by
  -- An element that is owned is enclosed by more than its owner, so it is never the root again.
  suffices deeper : (m.ancestors root).length ≤ (m.ancestors v.id).length ∧ v.id ∈ ids ∧
      ∃ names : List String, (∀ name ∈ names, name ≠ "") ∧
        v.directory = names.foldl Path.join directory ∧
        m.packagePath v.id (some root) = .ok (names.map .str) from deeper.2
  induction h with
  | root _ =>
    refine ⟨Nat.le_refl _, hroot, [], by simp, rfl, ?_⟩
    rw [packagePath, if_pos rfl]
    rfl
  | @owned v child hv hp hc _ ih =>
    obtain ⟨deep, hid, names, nonempty, directory_eq, path_eq⟩ := ih
    have enclosed := encloses v.id hid child hc
    have proper := spans.proper v.id hid
    obtain ⟨name, hname⟩ := proper.text
    have length_eq : (m.ancestors child).length = (m.ancestors v.id).length + 1 := by
      rw [enclosed, List.length_cons]
    have other : child ≠ root := by
      rintro rfl
      omega
    have named : name ≠ "" := by
      have := hv.named
      rw [Element.isNamed, hname] at this
      simpa [Value.truthy] using this
    refine ⟨by dsimp only; omega, spans.owned_mem hid hc, names ++ [name], ?_, ?_, ?_⟩
    · rw [List.forall_mem_append, List.forall_mem_singleton]
      exact ⟨nonempty, named⟩
    · rw [List.foldl_append, ← directory_eq, Element.nameText, hname]
      rfl
    · rw [packagePath_owned path_eq enclosed other proper, hname, List.map_append]
      rfl

end

end GosuForge.Model
