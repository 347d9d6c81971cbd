import GosuForge.Generation.Workbench
import Mathlib.Data.List.Infix

/-!
# What a run asks of a destination

A destination that keeps a journal notes every step that is asked of it, and how it went. A plan is
carried out step by step: `Plan.calls` are the steps before the first that cannot be made, and a run
asks for all of them in order, or for those up to the first that the destination refuses.
-/

namespace GosuForge

/-- What was asked of a destination, in order, and how it went. -/
abbrev Journal := List (Step × Except Fault Unit)

namespace Journal

def calls (j : Journal) : List Step := j.map Prod.fst

/-- The steps as they are noted when they succeed. -/
def allDone (steps : List Step) : Journal := steps.map fun step => (step, .ok ())

@[simp] theorem calls_allDone (steps : List Step) : calls (allDone steps) = steps := by
  simp [calls, allDone, Function.comp_def]

theorem calls_append (j j' : Journal) : calls (j ++ j') = calls j ++ calls j' := List.map_append

end Journal

namespace Storage

variable {σ : Type}

/-- The destination with a journal of what is asked of it. -/
def journaled (storage : Storage σ) : Storage (Journal × σ) where
  createDirectory path state :=
    let (outcome, inner) := storage.createDirectory path state.2
    (outcome, state.1 ++ [(.directory path, outcome)], inner)
  writeText path text state :=
    let (outcome, inner) := storage.writeText path text state.2
    (outcome, state.1 ++ [(.file path text, outcome)], inner)

/-- A destination that refuses nothing. -/
def accepting : Storage Unit := ⟨fun _ state => (.ok (), state), fun _ _ state => (.ok (), state)⟩

end Storage

namespace Step

/-- The directory that a step makes. -/
def directory? : Step → Option Path
  | directory path => some path
  | file _ _ => none

/-- The file that a step makes. -/
def file? : Step → Option Path
  | directory _ => none
  | file path _ => some path

/-- What a destination answers to a step. -/
def ask {σ : Type} (storage : Storage σ) (step : Step) (state : σ) : Except Fault Unit × σ :=
  match step with
  | directory path => storage.createDirectory path state
  | file path content => storage.writeText path content state

theorem ask_journaled {σ : Type} (storage : Storage σ) (step : Step) (j : Journal) (state : σ) :
    step.ask storage.journaled (j, state)
      = ((step.ask storage state).1, j ++ [(step, (step.ask storage state).1)],
          (step.ask storage state).2) := by
  cases step <;> rfl

/-- All steps are made, and the destination goes from one state to the other. -/
def Made {σ : Type} (storage : Storage σ) : List Step → σ → σ → Prop
  | [], before, after => after = before
  | step :: rest, before, after =>
    ∃ state, step.ask storage before = (.ok (), state) ∧ Made storage rest state after

theorem ask_accepting (step : Step) : step.ask Storage.accepting () = (.ok (), ()) := by
  cases step <;> rfl

end Step

namespace Progress

/-- The progress when some steps have been made. -/
def after (p : Progress) (steps : List Step) : Progress :=
  ⟨p.files ++ steps.filterMap Step.file?, p.directories ++ steps.filterMap Step.directory?⟩

@[simp] theorem after_nil (p : Progress) : p.after [] = p := by simp [after]

theorem after_append (p : Progress) (steps steps' : List Step) :
    p.after (steps ++ steps') = (p.after steps).after steps' := by
  simp [after]

end Progress

theorem Step.perform_eq {σ : Type} (storage : Storage σ) (step : Step) (progress : Progress)
    (state : σ) :
    step.perform storage progress state =
      match step.ask storage state with
      | (.ok (), state) => (.ok (), progress.after [step], state)
      | (.error fault, state) => (.error fault, progress, state) := by
  cases step with
  | directory path =>
    simp only [perform, ask]
    rcases storage.createDirectory path state with ⟨_ | ⟨⟨⟩⟩, _⟩ <;>
      simp [Progress.after, directory?, file?]
  | file path content =>
    simp only [perform, ask]
    rcases storage.writeText path content state with ⟨_ | ⟨⟨⟩⟩, _⟩ <;>
      simp [Progress.after, directory?, file?]

namespace Plan

/-- The steps before the first that cannot be made. -/
def calls : Plan → List Step
  | [] => []
  | ⟨.error _, _⟩ :: _ => []
  | ⟨.ok step, _⟩ :: rest => step :: calls rest

/-- How a plan ends when no destination stops it. -/
def ending : Plan → Except Fault Unit
  | [] => .ok ()
  | ⟨.error fault, _⟩ :: _ => .error fault
  | ⟨.ok _, _⟩ :: rest => ending rest

/-- The model when a plan has ended. -/
def modelAfter (m : Model) : Plan → Model
  | [] => m
  | ⟨.error _, m⟩ :: _ => m
  | ⟨.ok _, m⟩ :: rest => modelAfter m rest

variable {σ : Type}

/-- The journal is only looked on: all else is as it is without. -/
theorem perform_journaled (storage : Storage σ) (plan : Plan) (m : Model) (progress : Progress)
    (j : Journal) (state : σ) :
    ∃ j', plan.perform storage.journaled m progress (j, state) =
      let (outcome, m, progress, state) := plan.perform storage m progress state
      (outcome, m, progress, j', state) := by
  induction plan generalizing m progress j state with
  | nil => exact ⟨j, rfl⟩
  | cons planned rest ih =>
    obtain ⟨fault | step, after⟩ := planned
    · exact ⟨j, rfl⟩
    · simp only [perform, Step.perform_eq, Step.ask_journaled]
      rcases step.ask storage state with ⟨fault | ⟨⟨⟩⟩, state'⟩
      · exact ⟨_, rfl⟩
      · exact ih after (progress.after [step]) _ state'

/-- A plan is carried out to its end, or up to the first step that the destination refuses. -/
theorem perform_journaled_cases (storage : Storage σ) (plan : Plan) (m : Model)
    (progress : Progress) (j : Journal) (state : σ) :
    (∃ state', plan.perform storage.journaled m progress (j, state) =
        (plan.ending, plan.modelAfter m, progress.after plan.calls,
          j ++ Journal.allDone plan.calls, state')) ∨
      ∃ done refused rest fault m' state', plan.calls = done ++ refused :: rest ∧
        plan.perform storage.journaled m progress (j, state) =
          (.error fault, m', progress.after done,
            j ++ (Journal.allDone done ++ [(refused, .error fault)]), state') := by
  induction plan generalizing m progress j state with
  | nil => exact Or.inl ⟨state, by simp [perform, ending, modelAfter, calls, Journal.allDone]⟩
  | cons planned rest ih =>
    obtain ⟨fault | step, after⟩ := planned
    · exact Or.inl ⟨state, by simp [perform, ending, modelAfter, calls, Journal.allDone]⟩
    · simp only [perform, Step.perform_eq, Step.ask_journaled]
      rcases step.ask storage state with ⟨fault | ⟨⟨⟩⟩, state'⟩
      · refine Or.inr ⟨[], step, calls rest, fault, after, state', rfl, ?_⟩
        simp [Journal.allDone]
      · rcases ih after (progress.after [step]) (j ++ [(step, .ok ())]) state' with
          ⟨s, h⟩ | ⟨done, refused, further, fault, m', s, hc, h⟩
        · refine Or.inl ⟨s, h.trans ?_⟩
          rw [← Progress.after_append]
          simp [ending, modelAfter, calls, Journal.allDone]
        · refine Or.inr ⟨step :: done, refused, further, fault, m', s, by simp [calls, hc], ?_⟩
          refine h.trans ?_
          rw [← Progress.after_append]
          simp [Journal.allDone]

/-- Where nothing is refused a plan is carried out to its end. -/
theorem perform_accepting (plan : Plan) (m : Model) (progress : Progress) (j : Journal) :
    plan.perform Storage.accepting.journaled m progress (j, ()) =
      (plan.ending, plan.modelAfter m, progress.after plan.calls, j ++ Journal.allDone plan.calls, ()) := by
  induction plan generalizing m progress j with
  | nil => simp [perform, ending, modelAfter, calls, Journal.allDone]
  | cons planned rest ih =>
    obtain ⟨fault | step, after⟩ := planned
    · simp [perform, ending, modelAfter, calls, Journal.allDone]
    · simp only [perform, Step.perform_eq, Step.ask_journaled, Step.ask_accepting]
      rw [ih, ← Progress.after_append]
      simp [ending, modelAfter, calls, Journal.allDone]

/-- A plan that is carried out without a fault has no fault of its own, and all its steps are made. -/
theorem perform_eq_ok {storage : Storage σ} {plan : Plan} {m m' : Model}
    {progress progress' : Progress} {state state' : σ}
    (h : plan.perform storage m progress state = (.ok (), m', progress', state')) :
    plan.ending = .ok () ∧ progress' = progress.after plan.calls ∧
      Step.Made storage plan.calls state state' := by
  induction plan generalizing m progress state with
  | nil =>
    cases h
    exact ⟨rfl, (Progress.after_nil _).symm, rfl⟩
  | cons planned rest ih =>
    obtain ⟨fault | step, after⟩ := planned
    · cases h
    · simp only [perform, Step.perform_eq] at h
      rcases ha : step.ask storage state with ⟨fault | ⟨⟨⟩⟩, next⟩ <;> rw [ha] at h
      · cases h
      · obtain ⟨he, hp, hm⟩ := ih h
        refine ⟨he, ?_, next, ha, hm⟩
        rw [hp, ← Progress.after_append]
        rfl

/-- A plan without a fault of its own is carried out where all its steps can be made. -/
theorem perform_of_made {storage : Storage σ} {plan : Plan} {m : Model} {progress : Progress}
    {state state' : σ} (ending : plan.ending = .ok ())
    (made : Step.Made storage plan.calls state state') :
    plan.perform storage m progress state =
      (.ok (), plan.modelAfter m, progress.after plan.calls, state') := by
  induction plan generalizing m progress state with
  | nil =>
    cases made
    rw [calls, Progress.after_nil]
    rfl
  | cons planned rest ih =>
    obtain ⟨fault | step, after⟩ := planned
    · cases ending
    · obtain ⟨next, asked, made⟩ := made
      simp only [perform, Step.perform_eq, asked]
      rw [ih ending made, ← Progress.after_append]
      rfl

/-- The model that a plan is carried out on is kept if each step keeps it. -/
theorem modelAfter_eq {plan : Plan} {m : Model} (h : ∀ planned ∈ plan, planned.after = m) :
    plan.modelAfter m = m := by
  induction plan with
  | nil => rfl
  | cons planned rest ih =>
    obtain ⟨hplanned, hrest⟩ := List.forall_mem_cons.mp h
    obtain ⟨fault | step, after⟩ := planned
    · exact hplanned
    · cases hplanned
      exact ih hrest

end Plan

end GosuForge
