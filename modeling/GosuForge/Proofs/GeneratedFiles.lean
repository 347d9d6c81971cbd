import GosuForge.Proofs.Memory
import GosuForge.Proofs.Run

/-!
# The files of a successful run

A run that succeeds in memory has made a directory for every package and a file for every declaration
that it visited. Each of these files holds the text of the last declaration that was written to it.
-/

namespace GosuForge.Workbench

/-- What a successful run reports and leaves in memory. -/
structure WritesVisits (w : Workbench) (d : Design) (root : ElementId) (path : Path)
    (result : GenerationResult) (before after : Memory String) : Prop where
  directories_eq : result.directories =
    (d.model.visitsFrom root path).filterMap fun v => v.newDirectory? d.model
  files_eq : result.files =
    (d.model.visitsFrom root path).filterMap fun v => v.newFile? w.generator.settings d.model
  /-- New files stand behind the others, in the order in which they were first written. -/
  order : after.files.map Prod.fst = before.files.map Prod.fst ++
    (result.files.filter fun p => !(before.files.map Prod.fst).contains p).eraseDups
  untouched : ∀ p, p ∉ result.files → after.content? p = before.content? p
  /-- A file holds the text of the last declaration that is written to it. -/
  written : ∀ p, p ∈ result.files → ∃ earlier v later content,
    d.model.visitsFrom root path = earlier ++ v :: later ∧
    v.newFile? w.generator.settings d.model = some p ∧
    (∀ u ∈ later, u.newFile? w.generator.settings d.model ≠ some p) ∧
    (SourceFile.render? d.relationships w.generator.settings w.generator.header (some root)
      v.id).answerIn d.model = .ok (some content) ∧
    after.content? p = some content

variable {w : Workbench} {d : Design} {root : ElementId} {ids : List ElementId} {path : Path}

/-- A run that succeeds makes all its visits. -/
theorem made_of_success {before after : Memory String} {w' : Workbench} {m : Model}
    {result : GenerationResult} (plain : d.model.PlainlyNamed) (spans : d.model.Spans root ids)
    (h : w.run d root path Memory.storage before = (result, w', m, after))
    (success : result.success = true) :
    (∀ v ∈ d.model.visitsFrom root path, ∃ step,
      v.asks w.generator d.relationships root d.model = .ok step) ∧
    result.files = (w.stepsAt d root (d.model.visitsFrom root path)).filterMap Step.file? ∧
    result.directories =
      (w.stepsAt d root (d.model.visitsFrom root path)).filterMap Step.directory? ∧
    Step.Made Memory.storage (w.stepsAt d root (d.model.visitsFrom root path)) before after := by
  rw [run_eq] at h
  rcases hp : (w.plan d root path).perform Memory.storage d.model .none before with
    ⟨fault | ⟨⟨⟩⟩, m', progress, after'⟩ <;> rw [hp] at h
  · cases h
    cases success
  · cases h
    obtain ⟨he, rfl, hm⟩ := Plan.perform_eq_ok hp
    rw [plan, Plan.make_eq w.generator plain spans path] at he hm ⊢
    rcases Plan.ofVisits_cases (Visit.asks w.generator d.relationships root d.model) d.model
        (d.model.visitsFrom root path) with
      ⟨hall, hc, -⟩ | ⟨_, _, _, fault, -, -, -, -, he'⟩
    · rw [hc] at hm ⊢
      exact ⟨hall, rfl, rfl, hm⟩
    · rw [he'] at he
      cases he

/-- Where all visits are made, the directories and files are those of the visits. -/
theorem stepsAt_eq (plain : d.model.PlainlyNamed) {visits : List Visit}
    (named : ∀ v ∈ visits, (d.model.get v.id).isNamed = true)
    (made : ∀ v ∈ visits, ∃ step, v.asks w.generator d.relationships root d.model = .ok step) :
    (w.stepsAt d root visits).filterMap Step.directory? =
        visits.filterMap (fun v => v.newDirectory? d.model) ∧
      (w.stepsAt d root visits).filterMap Step.file? =
        visits.filterMap fun v => v.newFile? w.generator.settings d.model := by
  rw [stepsAt, List.filterMap_filterMap, List.filterMap_filterMap]
  constructor <;> refine List.filterMap_congr fun v hv => ?_ <;>
    obtain ⟨step, hs⟩ := made v hv <;> rw [Visit.step?, hs]
  · exact (Visit.asks_eq_ok plain (named v hv) hs).1
  · exact (Visit.asks_eq_ok plain (named v hv) hs).2

/-- A text that is written belongs to a visit, and what is written later to the visits after it. -/
theorem exists_visit_of_written (plain : d.model.PlainlyNamed) {visits : List Visit}
    (named : ∀ v ∈ visits, (d.model.get v.id).isNamed = true)
    (made : ∀ v ∈ visits, ∃ step, v.asks w.generator d.relationships root d.model = .ok step)
    {p : Path} {content : String} {earlier later : List (Path × String)}
    (h : (w.stepsAt d root visits).filterMap Step.entry? = earlier ++ (p, content) :: later)
    (last : p ∉ later.map Prod.fst) :
    ∃ before v after, visits = before ++ v :: after ∧
      v.newFile? w.generator.settings d.model = some p ∧
      (∀ u ∈ after, u.newFile? w.generator.settings d.model ≠ some p) ∧
      (SourceFile.render? d.relationships w.generator.settings w.generator.header (some root)
        v.id).answerIn d.model = .ok (some content) := by
  rw [stepsAt, List.filterMap_filterMap, List.filterMap_eq_append_iff] at h
  obtain ⟨before, rest, rfl, -, h⟩ := h
  obtain ⟨skipped, v, after, rfl, -, hv, rfl⟩ := List.filterMap_eq_cons_iff.mp h
  refine ⟨before ++ skipped, v, after, by simp, ?_⟩
  obtain ⟨step, hs⟩ := made v (by simp)
  have hv : step = some (.file p content) := by
    rw [Visit.step?, hs] at hv
    rcases step with _ | ⟨q | ⟨q, text⟩⟩
    · cases hv
    · cases hv
    · cases hv
      rfl
  subst hv
  refine ⟨(Visit.asks_eq_ok plain (named v (by simp)) hs).2.symm, fun u hu hp => last ?_,
    Visit.content_of_asks plain hs⟩
  obtain ⟨step, hus⟩ := made u (by simp [hu])
  rw [← (Visit.asks_eq_ok plain (named u (by simp [hu])) hus).2] at hp
  rcases step with _ | ⟨q | ⟨q, text⟩⟩
  · cases hp
  · cases hp
  · cases hp
    refine List.mem_map_of_mem (f := Prod.fst) (a := (p, text)) (List.mem_filterMap.mpr ⟨u, hu, ?_⟩)
    rw [Visit.step?, hus]
    rfl

/-- A run that succeeds visits what is reached through named packages, in the order of the tree, and
reports and writes just that. -/
theorem run_success {before after : Memory String} {w' : Workbench} {m : Model}
    {result : GenerationResult} (plain : d.model.PlainlyNamed) (spans : d.model.Spans root ids)
    (h : w.run d root path Memory.storage before = (result, w', m, after))
    (success : result.success = true) :
    (∀ v, v ∈ d.model.visitsFrom root path ↔ d.model.Reached root path v) ∧
      ((d.model.visitsFrom root path).map Visit.id).Sublist ids ∧
      w.WritesVisits d root path result before after := by
  have hw := congrArg Prod.snd spans.walk_eq
  have reached (v : Visit) : v ∈ d.model.visitsFrom root path ↔ d.model.Reached root path v :=
    Model.mem_visits_iff hw
  refine ⟨reached, Model.visits_sublist spans.walk_eq, ?_⟩
  have named (v : Visit) (hv : v ∈ d.model.visitsFrom root path) := ((reached v).mp hv).named
  obtain ⟨made, hfiles, hdirectories, hmade⟩ := made_of_success plain spans h success
  obtain ⟨directoriesAt, filesAt⟩ := stepsAt_eq plain named made
  have hafter := Memory.files_of_made hmade
  have hkeys : ((w.stepsAt d root (d.model.visitsFrom root path)).filterMap Step.entry?).map
      Prod.fst = result.files := by
    rw [hfiles, List.map_filterMap]
    refine List.filterMap_congr fun step _ => ?_
    cases step <;> rfl
  have cases (p : Path) := Association.lookup_putAll_cases
    ((w.stepsAt d root (d.model.visitsFrom root path)).filterMap Step.entry?) before.files p
  simp only [hkeys, ← hafter] at cases
  refine ⟨hdirectories.trans directoriesAt, hfiles.trans filesAt, ?_, fun p hp => ?_, fun p hp => ?_⟩
  · rw [hafter, Association.keys_putAll, hkeys]
  · rcases cases p with ⟨-, hl⟩ | ⟨earlier, content, later, he, -, -⟩
    · exact hl
    · rw [← hkeys, he] at hp
      simp at hp
  · rcases cases p with ⟨hn, -⟩ | ⟨earlier, content, later, he, last, hl⟩
    · exact absurd hp hn
    · obtain ⟨before', v, after', hv, hf, hlast, hr⟩ :=
        exists_visit_of_written plain named made he last
      exact ⟨before', v, after', content, hv, hf, hlast, hr, hl⟩

/-- Both enumerations are written to one file, where the text of the second stays. -/
theorem run_success_shop : ∃ result w' m after,
    shop.model.PlainlyNamed ∧ shop.model.Spans 0 [0, 1, 3, 4, 2] ∧
    standard.run shop 0 (.ofString "out") Memory.storage .empty = (result, w', m, after) ∧
    result.success = true ∧
    ((shop.model.visitsFrom 0 (.ofString "out")).map Visit.id).Sublist [0, 1, 3, 4, 2] ∧
    standard.WritesVisits shop 0 (.ofString "out") result .empty after ∧
    result.files = ["out/shop/data/Kind.gs", "out/shop/data/Kind.gs", "out/shop/Cart.gs"].map
      Path.ofString := by
  rcases h : standard.run shop 0 (.ofString "out") Memory.storage .empty with ⟨result, w', m, after⟩
  have hr : (standard.run shop 0 (.ofString "out") Memory.storage .empty).1 = result := by rw [h]
  have success : result.success = true := by
    rw [← hr]
    decide +kernel
  obtain ⟨-, order, writes⟩ := run_success shop_plainlyNamed shop_spans h success
  refine ⟨result, w', m, after, shop_plainlyNamed, shop_spans, rfl, success, order, writes, ?_⟩
  rw [← hr]
  decide +kernel

end GosuForge.Workbench
