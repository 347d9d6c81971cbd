import GosuForge.Model.Relationship
import GosuForge.Proofs.Outcome

/-!
# What a repository answers

A repository is asked for what involves an element. It has no answer where an association stands at
something that is no end; else its answers are the targets and associations in its order.

* `Outcome.filterM_eq`: a filter whose questions may have no answer;
* `Repository.targets_eq`, `Repository.associations_eq`: the answers.
-/

namespace GosuForge

namespace Outcome

variable {α : Type}

/-- Whether a question is answered with yes. -/
def isYes : Except Fault Bool → Bool
  | .ok b => b
  | .error _ => false

theorem filterAuxM_eq {f : α → Except Fault Bool} {fault : Fault} {xs : List α}
    (h : ∀ x ∈ xs, ∀ e, f x = .error e → e = fault) (found : List α) :
    xs.filterAuxM f found =
      if xs.all fun x => (f x).toBool then .ok ((xs.filter fun x => isYes (f x)).reverse ++ found)
      else .error fault := by
  induction xs generalizing found with
  | nil => rfl
  | cons x xs ih =>
    obtain ⟨hx, hxs⟩ := List.forall_mem_cons.mp h
    have ih := ih hxs
    rw [List.filterAuxM]
    cases hf : f x with
    | error e =>
      obtain rfl := hx e hf
      simp [hf, Except.toBool]
      rfl
    | ok b =>
      have step : (Except.ok b >>= fun b => xs.filterAuxM f (cond b (x :: found) found)) =
          xs.filterAuxM f (cond b (x :: found) found) := rfl
      rw [step, ih]
      cases b <;> simp [hf, Except.toBool, isYes]

/-- A filter answers if all its questions are answered; otherwise it fails as they do. -/
theorem filterM_eq {f : α → Except Fault Bool} {fault : Fault} {xs : List α}
    (h : ∀ x ∈ xs, ∀ e, f x = .error e → e = fault) :
    xs.filterM f =
      if xs.all fun x => (f x).toBool then .ok (xs.filter fun x => isYes (f x))
      else .error fault := by
  rw [List.filterM, filterAuxM_eq h]
  split
  · simp [bind, Except.bind, pure, Except.pure]
  · rfl

end Outcome

namespace Relationship

variable {m : Model} {id : ElementId} {x : Relationship}

/-- There is no answer only where an association stands at something that is no end. -/
theorem fault_of_involves {fault : Fault} (h : x.involves m id = .error fault) :
    fault = .noSuchMember := by
  have noEnd {near : ElementId} (h : m.referenceOf near = .error fault) :
      fault = .noSuchMember := by
    rw [Model.referenceOf] at h
    split at h
    · cases h
    · exact (Except.error.inj h).symm
  cases x with
  | directed kind name source target => cases h
  | association name end1 end2 =>
    rw [involves] at h
    rcases Outcome.bind_eq_error.mp h with h | ⟨first, -, h⟩
    · exact noEnd h
    · split at h
      · cases h
      · rcases Outcome.bind_eq_error.mp h with h | ⟨second, -, h⟩
        · exact noEnd h
        · cases h

/-- The ends of an association, if it involves an element. -/
def endsAt? (m : Model) (id : ElementId) (x : Relationship) : Option (ElementId × ElementId) :=
  match x with
  | directed _ _ _ _ => none
  | association _ end1 end2 =>
    if Outcome.isYes (x.involves m id) then some (end1, end2) else none

theorem isYes_of_targetOf? {kind : DirectedKind} {target : Option ElementId}
    (h : Repository.targetOf? kind id x = some target) :
    Outcome.isYes (x.involves m id) = true := by
  cases x with
  | association name end1 end2 => cases h
  | directed k name source target' =>
    rw [Repository.targetOf?] at h
    split at h
    · rename_i both
      have starts : source = some id := by simp_all
      simp [involves, Outcome.isYes, starts]
    · cases h

end Relationship

namespace Repository

variable {m : Model} {id : ElementId}

/-- Whether all relationships can be asked if they involve an element. -/
def answers (r : Repository) (m : Model) (id : ElementId) : Bool :=
  r.all fun x => (x.involves m id).toBool

theorem involving_eq (r : Repository) (m : Model) (id : ElementId) :
    r.involving m id =
      if r.answers m id then .ok (r.zipIdx.filter fun x => Outcome.isYes (x.1.involves m id))
      else .error .noSuchMember := by
  have all : r.answers m id = r.zipIdx.all fun x => (x.1.involves m id).toBool := by
    conv_lhs => rw [answers, ← List.zipIdx_map_fst 0 r, List.all_map]
    rfl
  rw [all]
  exact Outcome.filterM_eq fun x _ fault h => Relationship.fault_of_involves h

/-- What is read off the relationships that involve an element, where nothing is read off the others. -/
theorem filterMap_involving {β : Type} {f : Relationship → Option β} (r : Repository)
    (h : ∀ x, Outcome.isYes (x.involves m id) = false → f x = none) :
    (r.zipIdx.filter fun x => Outcome.isYes (x.1.involves m id)).filterMap (fun x => f x.1) =
      r.filterMap f := by
  have each (x : Relationship × Nat) :
      (if Outcome.isYes (x.1.involves m id) = true then f x.1 else none) = f x.1 := by
    cases hx : Outcome.isYes (x.1.involves m id) with
    | false => simp [h x.1 hx]
    | true => simp
  calc (r.zipIdx.filter fun x => Outcome.isYes (x.1.involves m id)).filterMap (fun x => f x.1)
      = r.zipIdx.filterMap (fun x => f x.1) := by simp only [List.filterMap_filter, each]
    _ = (r.zipIdx.map Prod.fst).filterMap f := by rw [List.filterMap_map]; rfl
    _ = r.filterMap f := by rw [List.zipIdx_map_fst]

theorem targets_eq (r : Repository) (m : Model) (kind : DirectedKind) (id : ElementId) :
    r.targets m kind id =
      if r.answers m id then .ok (r.filterMap (targetOf? kind id)) else .error .noSuchMember := by
  have none_of_no (x : Relationship) (no : Outcome.isYes (x.involves m id) = false) :
      targetOf? kind id x = none := by
    cases ht : targetOf? kind id x with
    | none => rfl
    | some target =>
      rw [Relationship.isYes_of_targetOf? ht] at no
      cases no
  rw [targets, involving_eq]
  split
  · exact congrArg Except.ok (filterMap_involving r none_of_no)
  · rfl

theorem associations_eq (r : Repository) (m : Model) (id : ElementId) :
    r.associations m id =
      if r.answers m id then .ok (r.filterMap (Relationship.endsAt? m id))
      else .error .noSuchMember := by
  have none_of_no (x : Relationship) (no : Outcome.isYes (x.involves m id) = false) :
      Relationship.endsAt? m id x = none := by
    cases x with
    | directed kind name source target => rfl
    | association name end1 end2 => simp [Relationship.endsAt?, no]
  rw [associations, involving_eq]
  split
  · refine congrArg Except.ok ((List.filterMap_congr fun x hx => ?_).trans
      (filterMap_involving r none_of_no))
    have yes := (List.mem_filter.mp hx).2
    obtain ⟨x, place⟩ := x
    cases x with
    | directed kind name source target => rfl
    | association name end1 end2 =>
      simp only [Relationship.endsAt?]
      rw [if_pos yes]
  · rfl

end Repository

end GosuForge
