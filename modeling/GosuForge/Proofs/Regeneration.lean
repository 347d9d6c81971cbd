import GosuForge.Proofs.Memory
import GosuForge.Proofs.Run

/-!
# Runs that are repeated

* `Workbench.Used`: a workbench that was used in whatever way;
* `Workbench.run_of_made`: a run whose steps can be made succeeds and makes them;
* `Workbench.run_again`: a run in memory that succeeded succeeds once more, in the same way, and
  leaves the memory as it is; what came before it does not matter.
-/

namespace GosuForge

namespace Workbench

/-- A workbench of a generator after any number of runs and single steps, for any design and at any
destination, and however they ended. -/
inductive Used (g : Generator) : Workbench → Prop
  | new : Used g (.new g)
  | reset {w : Workbench} (root : Option ElementId) : Used g w → Used g (w.reset root)
  | generate {w : Workbench} {σ : Type} (d : Design) (id : ElementId) (path : Path)
      (storage : Storage σ) (state : σ) : Used g w → Used g (w.generate d id path storage state).2.1
  | run {w : Workbench} {σ : Type} (d : Design) (root : ElementId) (path : Path)
      (storage : Storage σ) (state : σ) : Used g w → Used g (w.run d root path storage state).2.1

theorem Used.generator_eq {g : Generator} {w : Workbench} (h : Used g w) : w.generator = g := by
  induction h with
  | new => rfl
  | reset root _ ih => exact ih
  | generate d id path storage state _ ih => exact ih
  | run d root path storage state _ ih => exact ih

variable {σ : Type}

/-- A run clears the workbench first: of what it remembers nothing is read. -/
theorem run_eq_of_generator {w w' : Workbench} (h : w.generator = w'.generator) (d : Design)
    (root : ElementId) (path : Path) (storage : Storage σ) (state : σ) :
    w.run d root path storage state = w'.run d root path storage state := by
  rw [run_eq, run_eq, plan, plan, h]

variable {w : Workbench} {d : Design} {root : ElementId} {path : Path} {storage : Storage σ}

theorem modelAfter_plan (plain : d.model.PlainlyNamed) :
    (w.plan d root path).modelAfter d.model = d.model :=
  Plan.modelAfter_eq fun _ => Plan.after_of_mem_walk plain

/-- A run that succeeds makes all steps of its plan, which has no fault of its own. -/
theorem made_of_run {state state' : σ} {result : GenerationResult} {w' : Workbench} {m : Model}
    (h : w.run d root path storage state = (result, w', m, state'))
    (success : result.success = true) :
    (w.plan d root path).ending = .ok () ∧
      Step.Made storage (w.plan d root path).calls state state' := by
  rw [run_eq] at h
  rcases hp : (w.plan d root path).perform storage d.model .none state with
    ⟨fault | ⟨⟨⟩⟩, m, progress, next⟩ <;> rw [hp] at h <;> cases h
  · cases success
  · obtain ⟨ending, -, made⟩ := Plan.perform_eq_ok hp
    exact ⟨ending, made⟩

/-- A run whose steps can be made makes them, and reports them. -/
theorem run_of_made (plain : d.model.PlainlyNamed) {state state' : σ}
    (ending : (w.plan d root path).ending = .ok ())
    (made : Step.Made storage (w.plan d root path).calls state state') :
    w.run d root path storage state =
      let progress := Progress.none.after (w.plan d root path).calls
      (w.generator.report (d.model.get root) path (.ok ()) progress,
        ⟨w.generator, some root, progress⟩, d.model, state') := by
  rw [run_eq, Plan.perform_of_made ending made, modelAfter_plan plain]

/-- **A run in memory can be repeated.** It goes as it goes at a workbench that is new, whatever was
done at this one before. If it succeeds it keeps the model; the same run after it, at the same
workbench or a new one, has an equal result and leaves the memory as it is. -/
theorem run_again {g : Generator} (used : Used g w) (plain : d.model.PlainlyNamed)
    {before after : Memory String} (reachable : before.Reachable) {result : GenerationResult}
    {w' : Workbench} {m : Model}
    (h : w.run d root path Memory.storage before = (result, w', m, after)) :
    (new g).run d root path Memory.storage before = (result, w', m, after) ∧
      (result.success = true → m = d.model ∧
        w'.run d root path Memory.storage after = (result, w', m, after) ∧
        (new g).run d root path Memory.storage after = (result, w', m, after)) := by
  have fresh {w : Workbench} (used : Used g w) (state : Memory String) :
      (new g).run d root path Memory.storage state = w.run d root path Memory.storage state :=
    run_eq_of_generator used.generator_eq.symm d root path Memory.storage state
  refine ⟨(fresh used before).trans h, fun success => ?_⟩
  obtain ⟨ending, made⟩ := made_of_run h success
  have once := run_of_made plain ending made
  have twice := run_of_made plain ending (Memory.made_again reachable.consistent made)
  have again : w.run d root path Memory.storage after = (result, w', m, after) :=
    (twice.trans once.symm).trans h
  have usedAfter : Used g w' := by
    have := used.run d root path Memory.storage before
    rwa [h] at this
  have model : m = d.model := by
    rw [once] at h
    cases h
    rfl
  refine ⟨model, ?_, (fresh used after).trans again⟩
  rw [← fresh usedAfter after, fresh used after, again]

/-! ## After a run that was broken off, where something stands already -/

/-- The workbench after a run that was refused its first file. -/
def interrupted : Workbench :=
  (standard.run shop 0 .here (Memory.storage.refusing "Kind.gs") .empty).2.1

/-- A memory with a file that a run writes anew, and with another one. -/
def occupied : Memory String :=
  (Memory.write (.ofString "shop/Cart.gs") "old"
    (Memory.write (.ofString "notes") "kept" .empty).2).2

theorem run_again_shop :
    let outcome := interrupted.run shop 0 .here Memory.storage occupied
    Used standard.generator interrupted ∧
      interrupted.progress = ⟨[], [.ofString "shop", .ofString "shop/data"]⟩ ∧
      shop.model.PlainlyNamed ∧ occupied.Reachable ∧ outcome.1.success = true ∧
      standard.run shop 0 .here Memory.storage occupied = outcome ∧
      outcome.2.2.1 = shop.model ∧
      outcome.2.1.run shop 0 .here Memory.storage outcome.2.2.2 = outcome ∧
      standard.run shop 0 .here Memory.storage outcome.2.2.2 = outcome := by
  have used : Used standard.generator interrupted := .run _ _ _ _ _ .new
  have reachable : occupied.Reachable := .write _ _ (.write _ _ .empty)
  have progress : interrupted.progress = ⟨[], [.ofString "shop", .ofString "shop/data"]⟩ := by
    decide +kernel
  have success : (interrupted.run shop 0 .here Memory.storage occupied).1.success = true := by
    decide +kernel
  rcases h : interrupted.run shop 0 .here Memory.storage occupied with ⟨result, w', m, after⟩
  rw [h] at success
  obtain ⟨first, again⟩ := run_again used shop_plainlyNamed reachable h
  obtain ⟨model, same, fresh⟩ := again success
  exact ⟨used, progress, shop_plainlyNamed, reachable, success, first, model, same, fresh⟩

end Workbench

end GosuForge
