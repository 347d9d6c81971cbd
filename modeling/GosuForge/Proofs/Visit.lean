import GosuForge.Generation.Workbench
import GosuForge.Proofs.Tree

/-!
# The visits of a run

A run visits the named elements below a root that it reaches through packages, each in the directory
of the packages around it.

* `Model.visits`: all visits, a package before what it owns;
* `Model.Reached`: what is visited, and in which directory;
* `Model.mem_visits_iff`: the visits are what is reached, and `Model.visits_sublist` their order.
-/

namespace GosuForge

/-- An element in the directory that its output is placed in. -/
structure Visit where
  id : ElementId
  directory : Path

namespace Element

/-- The name, which is empty unless it is a text. -/
def nameText (e : Element) : String :=
  match e.name with
  | .str name => name
  | _ => ""

end Element

namespace Model

def visits (m : Model) : Nat → Path → ElementId → List Visit
  | 0, _, _ => []
  | fuel + 1, directory, id =>
    if (m.get id).isNamed then
      ⟨id, directory⟩ ::
        if (m.get id).isPackage then
          (m.ownedBy id).flatMap (visits m fuel (directory.join (m.get id).nameText))
        else []
    else []

/-- The visits of a run from `root` on. -/
def visitsFrom (m : Model) (root : ElementId) (directory : Path) : List Visit :=
  m.visits m.depth directory root

/-- What is reached from a root in a directory: the root itself, and what a package owns that was
reached before, in the directory with the name of the package. All of it is named. -/
inductive Reached (m : Model) (root : ElementId) (directory : Path) : Visit → Prop
  | root : (m.get root).isNamed = true → Reached m root directory ⟨root, directory⟩
  | owned {v : Visit} {child : ElementId} : Reached m root directory v →
      (m.get v.id).isPackage = true → child ∈ m.ownedBy v.id → (m.get child).isNamed = true →
      Reached m root directory ⟨child, v.directory.join (m.get v.id).nameText⟩

variable {m : Model}

theorem Reached.named {root : ElementId} {directory : Path} {v : Visit}
    (h : m.Reached root directory v) : (m.get v.id).isNamed = true := by
  cases h with
  | root hn => exact hn
  | owned _ _ _ hn => exact hn

theorem Reached.root_named {root : ElementId} {directory : Path} {v : Visit}
    (h : m.Reached root directory v) : (m.get root).isNamed = true := by
  induction h with
  | root hn => exact hn
  | owned _ _ _ _ ih => exact ih

theorem Reached.trans {root : ElementId} {directory : Path} {v u : Visit}
    (h : m.Reached root directory v) (h' : m.Reached v.id v.directory u) :
    m.Reached root directory u := by
  induction h' with
  | root _ => exact h
  | owned _ hp hc hn ih => exact ih.owned hp hc hn

theorem reached_of_mem_visits {fuel : Nat} {root : ElementId} {directory : Path} {v : Visit}
    (h : v ∈ m.visits fuel directory root) : m.Reached root directory v := by
  induction fuel generalizing root directory with
  | zero => exact absurd h List.not_mem_nil
  | succ fuel ih =>
    rw [visits] at h
    split at h
    · rename_i hn
      rcases List.mem_cons.mp h with rfl | h
      · exact .root hn
      · split at h
        · rename_i hp
          obtain ⟨child, hc, h⟩ := List.mem_flatMap.mp h
          have hv := ih h
          exact (Reached.owned (.root hn) hp hc hv.root_named).trans hv
        · exact absurd h List.not_mem_nil
    · exact absurd h List.not_mem_nil

/-- Where a walk ends without a fault, the visits below what is reached are among all visits. -/
theorem Reached.visits_subset {fuel : Nat} {root : ElementId} {directory : Path} {v : Visit}
    (hw : (m.walk fuel root).2 = none) (h : m.Reached root directory v) :
    ∃ k, (m.walk (k + 1) v.id).2 = none ∧
      m.visits (k + 1) v.directory v.id ⊆ m.visits fuel directory root := by
  induction h with
  | root _ =>
    cases fuel with
    | zero => cases hw
    | succ k => exact ⟨k, hw, fun _ h => h⟩
  | @owned v child hv hp hc _ ih =>
    obtain ⟨k, hk, hsub⟩ := ih
    have hchild := (walk_succ_eq.mp (Prod.ext rfl hk)).2.1 child hc
    cases k with
    | zero => cases hchild
    | succ k =>
      refine ⟨k, hchild, fun u hu => hsub ?_⟩
      rw [visits, if_pos hv.named, if_pos hp]
      exact List.mem_cons_of_mem _ (List.mem_flatMap.mpr ⟨child, hc, hu⟩)

/-- The visits are what is reached. -/
theorem mem_visits_iff {fuel : Nat} {root : ElementId} {directory : Path}
    (hw : (m.walk fuel root).2 = none) {v : Visit} :
    v ∈ m.visits fuel directory root ↔ m.Reached root directory v := by
  refine ⟨reached_of_mem_visits, fun h => ?_⟩
  obtain ⟨k, -, hsub⟩ := h.visits_subset hw
  apply hsub
  rw [visits, if_pos h.named]
  exact List.mem_cons_self

/-- Visits come in the order of the tree, each element before those that it owns. -/
theorem visits_sublist {fuel : Nat} {root : ElementId} {directory : Path} {ids : List ElementId}
    (hw : m.walk fuel root = (ids, none)) :
    ((m.visits fuel directory root).map Visit.id).Sublist ids := by
  induction fuel generalizing root directory ids with
  | zero => cases hw
  | succ fuel ih =>
    obtain ⟨-, hc, rfl⟩ := walk_succ_eq.mp hw
    rw [visits]
    split
    · refine List.Sublist.cons_cons root ?_
      split
      · rw [List.map_flatMap]
        generalize m.ownedBy root = children at hc
        induction children with
        | nil => exact .slnil
        | cons child rest ihc =>
          obtain ⟨hchild, hrest⟩ := List.forall_mem_cons.mp hc
          exact (ih (Prod.ext rfl hchild)).append (ihc hrest)
      · exact List.nil_sublist _
    · exact List.nil_sublist _

end Model

end GosuForge
