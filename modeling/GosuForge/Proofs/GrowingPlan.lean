import GosuForge.Proofs.Containment

/-!
# Plans on models that grow

While a plan is made, lists that elements are named by may grow. Whatever they do, each file of the plan
is that of a declaration that is reached in the model that the plan began with.

* `Model.GrowsTo.get_eq_of_form`: declared elements stay as they are;
* `Plan.growsTo_of_mem_walk`: the models that come along with the steps of a plan;
* `Plan.exists_visit_of_mem_walk`: the visit that a file of a plan belongs to.
-/

namespace GosuForge

open Inspection

namespace Model

variable {m m' : Model} {id : ElementId}

/-- Nothing is declared in the place of a list, be it before or after. -/
theorem GrowsTo.get_eq_of_form (grown : m.GrowsTo m') {form : DeclarationForm}
    (h : DeclarationForm.of? (m.get id) = some form ∨ DeclarationForm.of? (m'.get id) = some form) :
    m'.get id = m.get id := by
  rcases grown.2 id with same | ⟨⟨old, new, e, e'⟩, -⟩
  · exact same
  · rcases h with h | h
    · rw [DeclarationForm.of?, Element.sort?, e] at h
      cases h
    · rw [e'] at h
      cases h

end Model

namespace Plan

variable {g : Generator} {r : Repository} {top : Option ElementId} {m : Model}

/-- Where each part of a plan lets lists grow and nothing else, what is in the whole is in the plan for
one of the parts, made on a model that the first one grew to. -/
theorem exists_growing_of_mem_chain {plan : Model → ElementId → Plan} {ids : List ElementId}
    (grows : ∀ m id, ∀ planned ∈ plan m id, m.GrowsTo planned.after) {planned : PlannedStep}
    (h : planned ∈ chain plan m ids) :
    ∃ id ∈ ids, ∃ m', m.GrowsTo m' ∧ planned ∈ plan m' id := by
  induction ids generalizing m with
  | nil => exact absurd h List.not_mem_nil
  | cons id rest ih =>
    have further {m' : Model} (grown : m.GrowsTo m') (h : planned ∈ chain plan m' rest) :
        ∃ id' ∈ id :: rest, ∃ m', m.GrowsTo m' ∧ planned ∈ plan m' id' := by
      obtain ⟨id', hid, m'', grown', h⟩ := ih h
      exact ⟨id', List.mem_cons_of_mem id hid, m'', grown.trans grown', h⟩
    have here (h : planned ∈ plan m id) :
        ∃ id' ∈ id :: rest, ∃ m', m.GrowsTo m' ∧ planned ∈ plan m' id' :=
      ⟨id, List.mem_cons_self, m, .refl m, h⟩
    rw [chain] at h
    cases hl : (plan m id).getLast? with
    | none =>
      rw [hl] at h
      exact further (.refl m) h
    | some last =>
      have grown := grows m id last (List.mem_of_getLast? hl)
      obtain ⟨fault | step, next⟩ := last
      · rw [hl] at h
        exact here h
      · rw [hl] at h
        rcases List.mem_append.mp h with h | h
        · exact here h
        · exact further grown h

theorem growsTo_of_mem_declarationSteps {path : Path} {id : ElementId} {planned : PlannedStep}
    (h : planned ∈ declarationSteps g r top path m id) : m.GrowsTo planned.after := by
  have grown := (declarationStep?_keeps g r top path id).growsTo m
  rw [declarationSteps] at h
  rcases hr : (declarationStep? g r top path id).runIn m with ⟨fault | _ | step, m'⟩ <;>
    rw [hr] at h grown
  · rw [List.mem_singleton.mp h]
    exact grown
  · exact absurd h List.not_mem_nil
  · rw [List.mem_singleton.mp h]
    exact grown

/-- A plan lets no more than lists grow. -/
theorem growsTo_of_mem_walk {fuel : Nat} {directory : Path} {id : ElementId} {planned : PlannedStep}
    (h : planned ∈ walk g r top fuel directory m id) : m.GrowsTo planned.after := by
  induction fuel generalizing m directory id planned with
  | zero =>
    rw [List.mem_singleton.mp h]
    exact .refl m
  | succ fuel ih =>
    have failed {fault : Fault} (h : planned ∈ [PlannedStep.mk (.error fault) m]) :
        m.GrowsTo planned.after := by
      rw [List.mem_singleton.mp h]
      exact .refl m
    rw [walk] at h
    split at h
    · exact failed h
    · split at h
      · split at h
        · exact absurd h List.not_mem_nil
        · exact failed h
      · split at h
        · split at h
          · rcases List.mem_cons.mp h with rfl | h
            · exact .refl m
            · split at h
              · exact failed h
              · obtain ⟨child, -, m', grown, h⟩ :=
                  exists_growing_of_mem_chain (fun _ _ _ h => ih h) h
                exact grown.trans (ih h)
          · exact failed h
        · exact growsTo_of_mem_declarationSteps h

/-- A file of a plan is that of a declaration that is reached, written on a model that the first one
grew to. -/
theorem exists_visit_of_mem_walk {start : Path} {root : ElementId} {fuel : Nat} {directory : Path}
    {id : ElementId} {m' : Model} (grown : m.GrowsTo m')
    (place : (m.get id).isNamed = true → m.Reached root start ⟨id, directory⟩)
    {planned : PlannedStep} (h : planned ∈ walk g r top fuel directory m' id) {path : Path}
    {content : String} (hs : planned.step = .ok (.file path content)) :
    ∃ v m'', m.Reached root start v ∧ m.GrowsTo m'' ∧
      (declarationStep? g r top v.directory v.id).answerIn m'' =
        .ok (some (.file path content)) := by
  have failed {fault : Fault} {m' : Model} {planned : PlannedStep}
      (hs : planned.step = .ok (.file path content))
      (h : planned ∈ [PlannedStep.mk (.error fault) m']) : False := by
    rw [List.mem_singleton.mp h] at hs
    cases hs
  -- A package is entered in the model as it is then, but the package itself is as it was at first.
  induction fuel generalizing m' directory id planned with
  | zero => exact (failed hs h).elim
  | succ fuel ih =>
    rw [walk] at h
    split at h
    · exact (failed hs h).elim
    · rename_i e he
      obtain rfl := Model.read_eq_ok he
      have same := grown.get_eq_of_read (.inr he)
      split at h
      · split at h
        · exact absurd h List.not_mem_nil
        · exact (failed hs h).elim
      · rename_i isNamed
        have named : (m.get id).isNamed = true := by simpa [same] using isNamed
        have reached := place named
        split at h
        · rename_i package
          rw [same] at package
          split at h
          · rename_i name hname
            rw [same] at hname
            rcases List.mem_cons.mp h with rfl | h
            · cases hs
            · split at h
              · exact (failed hs h).elim
              · rename_i owned howned
                rw [same] at howned
                obtain ⟨child, hc, m'', grown', h⟩ :=
                  exists_growing_of_mem_chain (fun _ _ _ h => growsTo_of_mem_walk h) h
                have owned := Model.ownedBy_of_given howned ▸ hc
                refine ih (grown.trans grown') (fun hn => ?_) h hs
                exact Element.nameText_eq hname ▸ reached.owned package owned hn
          · exact (failed hs h).elim
        · rw [declarationSteps] at h
          rcases hr : (declarationStep? g r top directory id).runIn m' with
            ⟨fault | _ | step, after⟩ <;> rw [hr] at h
          · exact (failed hs h).elim
          · exact absurd h List.not_mem_nil
          · rw [List.mem_singleton.mp h] at hs
            cases hs
            exact ⟨⟨id, directory⟩, m', reached, grown, congrArg Prod.fst hr⟩

end Plan

end GosuForge
