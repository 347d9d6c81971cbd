import GosuForge.Gosu.Generator
import GosuForge.Proofs.Plan
import GosuForge.Storage.Memory

/-!
# How a run ends

`Workbench.recorded` is a whole run with a journal of what it asked of the destination. A run asks for
the same steps as one at a destination that refuses nothing, up to the first refusal, and reports the
first fault and what was made before it.
-/

namespace GosuForge

/-- The steps that were made. -/
def Journal.made (j : Journal) : List Step :=
  j.filterMap fun (step, outcome) => if outcome.toBool then some step else none

theorem Journal.made_append (j j' : Journal) : made (j ++ j') = made j ++ made j' :=
  List.filterMap_append

theorem Journal.made_allDone (steps : List Step) : made (allDone steps) = steps := by
  simp [made, allDone, List.filterMap_map, Except.toBool]

theorem Generator.report_files (g : Generator) (root : Element) (path : Path)
    (outcome : Except Fault Unit) (p : Progress) : (g.report root path outcome p).files = p.files := by
  cases outcome <;> rfl

theorem Generator.report_directories (g : Generator) (root : Element) (path : Path)
    (outcome : Except Fault Unit) (p : Progress) :
    (g.report root path outcome p).directories = p.directories := by
  cases outcome <;> rfl

namespace Workbench

variable {σ : Type}

/-- The plan of a whole run. -/
def plan (w : Workbench) (d : Design) (root : ElementId) (path : Path) : Plan :=
  Plan.make w.generator d (some root) path root

theorem run_eq (w : Workbench) (d : Design) (root : ElementId) (path : Path) (storage : Storage σ)
    (state : σ) :
    w.run d root path storage state =
      let (outcome, m, progress, state) := (w.plan d root path).perform storage d.model .none state
      (w.generator.report (m.get root) path outcome progress, ⟨w.generator, some root, progress⟩, m,
        state) := rfl

/-- The result of a whole run, and the journal of what it asked. -/
def recorded (w : Workbench) (d : Design) (root : ElementId) (path : Path) (storage : Storage σ)
    (state : σ) : GenerationResult × Journal :=
  let (result, _, _, journal, _) := w.run d root path storage.journaled ([], state)
  (result, journal)

/-- The result of a run that asked for `steps`, all of which were made, and the journal of it. -/
def unrefused (w : Workbench) (d : Design) (root : ElementId) (path : Path) :
    GenerationResult × Journal :=
  let plan := w.plan d root path
  (w.generator.report ((plan.modelAfter d.model).get root) path plan.ending
    (Progress.none.after plan.calls), .allDone plan.calls)

variable (w : Workbench) (d : Design) (root : ElementId) (path : Path)

theorem run_result_eq (storage : Storage σ) (state : σ) :
    (w.run d root path storage state).1 = (w.recorded d root path storage state).1 := by
  obtain ⟨j, h⟩ := (w.plan d root path).perform_journaled storage d.model .none [] state
  rw [recorded, run_eq, run_eq, h]

theorem recorded_accepting :
    w.recorded d root path Storage.accepting () = w.unrefused d root path := by
  rw [recorded, run_eq, Plan.perform_accepting]
  rfl

/-- A run that is refused something asks for nothing more. -/
theorem recorded_cases (storage : Storage σ) (state : σ) :
    w.recorded d root path storage state = w.unrefused d root path ∨
      ∃ done refused rest fault m, (w.plan d root path).calls = done ++ refused :: rest ∧
        w.recorded d root path storage state =
          (w.generator.report (Model.get m root) path (.error fault) (Progress.none.after done),
            Journal.allDone done ++ [(refused, .error fault)]) := by
  rcases (w.plan d root path).perform_journaled_cases storage d.model .none [] state with
    ⟨state', h⟩ | ⟨done, refused, rest, fault, m, state', hc, h⟩
  · refine Or.inl ?_
    rw [recorded, run_eq, h]
    rfl
  · refine Or.inr ⟨done, refused, rest, fault, m, hc, ?_⟩
    rw [recorded, run_eq, h]
    rfl

/-- The steps that are asked for at visits. -/
def stepsAt (visits : List Visit) : List Step :=
  visits.filterMap (Visit.step? (Visit.asks w.generator d.relationships root d.model))

/-- What a run does at a destination that may refuse anything at any time, next to the same run where
nothing is refused. -/
structure StopsAtFirstFault (storage : Storage σ) (state : σ) : Prop where
  /-- The journal changes nothing. -/
  result_eq : (w.run d root path storage state).1 = (w.recorded d root path storage state).1
  calls_prefix : (w.recorded d root path storage state).2.calls <+:
    (w.recorded d root path Storage.accepting ()).2.calls
  /-- Where nothing is refused all visits of a tree are made, or those before the first declaration
  that cannot be written. -/
  unrefused {ids : List ElementId} : d.model.PlainlyNamed → d.model.Spans root ids →
    ∃ visited rest, d.model.visitsFrom root path = visited ++ rest ∧
      (∀ v ∈ visited, v.fault? w.generator d.relationships root d.model = none) ∧
      (w.recorded d root path Storage.accepting ()).2 = .allDone (w.stepsAt d root visited) ∧
      ((rest = [] ∧ (w.recorded d root path Storage.accepting ()).1.success = true) ∨
        ∃ v after fault, rest = v :: after ∧
          v.fault? w.generator d.relationships root d.model = some fault ∧
          (w.recorded d root path Storage.accepting ()).1.success = false ∧
          (w.recorded d root path Storage.accepting ()).1.fault = some fault)
  /-- Either nothing is refused, or the first refusal is the last that is asked for. -/
  refused : w.recorded d root path storage state = w.recorded d root path Storage.accepting () ∨
    ∃ done call fault,
      (w.recorded d root path storage state).2 = Journal.allDone done ++ [(call, .error fault)] ∧
      (w.recorded d root path storage state).1.success = false ∧
      (w.recorded d root path storage state).1.fault = some fault
  files_eq : (w.recorded d root path storage state).1.files =
    (w.recorded d root path storage state).2.made.filterMap Step.file?
  directories_eq : (w.recorded d root path storage state).1.directories =
    (w.recorded d root path storage state).2.made.filterMap Step.directory?

variable {d root}

theorem unrefused_cases {ids : List ElementId} (plain : d.model.PlainlyNamed)
    (spans : d.model.Spans root ids) :
    ∃ visited rest, d.model.visitsFrom root path = visited ++ rest ∧
      (∀ v ∈ visited, v.fault? w.generator d.relationships root d.model = none) ∧
      (w.plan d root path).calls = w.stepsAt d root visited ∧
      ((rest = [] ∧ (w.plan d root path).ending = .ok ()) ∨
        ∃ v after fault, rest = v :: after ∧
          v.fault? w.generator d.relationships root d.model = some fault ∧
          (w.plan d root path).ending = .error fault) := by
  have text (v : Visit) (hv : v ∈ d.model.visitsFrom root path) :
      ∃ name, (d.model.get v.id).name = .str name :=
    (spans.proper v.id ((Model.visits_sublist spans.walk_eq).subset
      (List.mem_map_of_mem hv))).text
  rw [plan, Plan.make_eq w.generator plain spans path]
  rcases Plan.ofVisits_cases (Visit.asks w.generator d.relationships root d.model) d.model
      (d.model.visitsFrom root path) with
    ⟨hall, hc, he⟩ | ⟨before, v, after, fault, hv, hall, hf, hc, he⟩
  · refine ⟨_, [], (List.append_nil _).symm, fun v hv => ?_, hc, Or.inl ⟨rfl, he⟩⟩
    obtain ⟨step, hs⟩ := hall v hv
    exact Visit.fault?_of_asks_eq_ok plain hs
  · refine ⟨before, v :: after, hv, fun u hu => ?_, hc, Or.inr ⟨v, after, fault, rfl, ?_, he⟩⟩
    · obtain ⟨step, hs⟩ := hall u hu
      exact Visit.fault?_of_asks_eq_ok plain hs
    · exact Visit.fault?_of_asks_eq_error plain (text v (by simp [hv])) hf

/-- Whatever a destination refuses and whenever it does so, the run stops at the first fault. -/
theorem stopsAtFirstFault (storage : Storage σ) (state : σ) :
    w.StopsAtFirstFault d root path storage state where
  result_eq := w.run_result_eq d root path storage state
  calls_prefix := by
    rw [recorded_accepting]
    rcases w.recorded_cases d root path storage state with
      h | ⟨done, refused, rest, fault, m, hc, h⟩
    · rw [h]
    · rw [h, unrefused, Journal.calls_append, Journal.calls_allDone, Journal.calls_allDone, hc]
      exact ⟨rest, by simp [Journal.calls]⟩
  unrefused plain spans := by
    rw [recorded_accepting, unrefused]
    obtain ⟨visited, rest, hv, hall, hc, he⟩ := w.unrefused_cases path plain spans
    refine ⟨visited, rest, hv, hall, by rw [hc], ?_⟩
    rcases he with ⟨rfl, he⟩ | ⟨v, after, fault, rfl, hf, he⟩
    · exact Or.inl ⟨rfl, by rw [he]; rfl⟩
    · exact Or.inr ⟨v, after, fault, rfl, hf, by rw [he]; rfl, by rw [he]; rfl⟩
  refused := by
    rw [recorded_accepting]
    rcases w.recorded_cases d root path storage state with
      h | ⟨done, refused, rest, fault, m, hc, h⟩
    · exact Or.inl h
    · exact Or.inr ⟨done, refused, fault, by rw [h], by rw [h]; rfl, by rw [h]; rfl⟩
  files_eq := by
    rcases w.recorded_cases d root path storage state with
      h | ⟨done, refused, rest, fault, m, hc, h⟩
    · rw [h, unrefused, Journal.made_allDone, Generator.report_files]
      rfl
    · rw [h, Journal.made_append, Journal.made_allDone, Generator.report_files]
      simp [Journal.made, Except.toBool, Progress.after, Progress.none]
  directories_eq := by
    rcases w.recorded_cases d root path storage state with
      h | ⟨done, refused, rest, fault, m, hc, h⟩
    · rw [h, unrefused, Journal.made_allDone, Generator.report_directories]
      rfl
    · rw [h, Journal.made_append, Journal.made_allDone, Generator.report_directories]
      simp [Journal.made, Except.toBool, Progress.after, Progress.none]

end Workbench

/-! ## A package in a package -/

/-- A package with a class and another package, in which two enumerations have one name. -/
def shop : Design where
  model := ⟨#[.newNamed "shop" none (.package [1, 2]),
    .newNamed "data" (some 0) (.package [3, 4]),
    .newNamed "Cart" (some 0) (.classifier (.new .classSort)),
    .newNamed "Kind" (some 1) (.classifier (.new .enumeration)),
    .newNamed "Kind" (some 1) (.classifier { Classifier.new .enumeration with literals := [5] }),
    .newNamed "NEW" (some 4) .literal]⟩
  relationships := []

theorem shop_plainlyNamed : shop.model.PlainlyNamed := by
  refine Model.plainlyNamed_of_texts fun e he => ?_
  simp only [shop, Array.mem_def, List.mem_cons, List.not_mem_nil, or_false] at he
  rcases he with rfl | rfl | rfl | rfl | rfl | rfl <;> exact ⟨_, rfl⟩

theorem shop_spans : shop.model.Spans 0 [0, 1, 3, 4, 2] where
  below := rfl
  once := by decide
  proper := by
    intro id hid
    simp only [List.mem_cons, List.not_mem_nil, or_false] at hid
    rcases hid with rfl | rfl | rfl | rfl | rfl <;> exact ⟨rfl, rfl, _, rfl⟩

namespace Workbench

/-- A workbench with the default settings and the shipped header. -/
def standard : Workbench := .new (.gosu .standard (some SourceFile.header))

/-- A destination that refuses the enumerations ends the run before the class. -/
theorem stopsAtFirstFault_shop : shop.model.PlainlyNamed ∧ shop.model.Spans 0 [0, 1, 3, 4, 2] ∧
    standard.StopsAtFirstFault shop 0 .here (Memory.storage.refusing "Kind.gs") .empty ∧
    (standard.recorded shop 0 .here (Memory.storage.refusing "Kind.gs") .empty).2.made =
      [.directory (.ofString "shop"), .directory (.ofString "shop/data")] :=
  ⟨shop_plainlyNamed, shop_spans, standard.stopsAtFirstFault .here _ _, by decide +kernel⟩

end Workbench

end GosuForge
