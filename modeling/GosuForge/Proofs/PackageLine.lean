import GosuForge.Proofs.HeaderTemplate
import GosuForge.Proofs.LoadedTree
import GosuForge.Proofs.Memory
import GosuForge.Proofs.Run

/-!
# Package lines and directories

With the shipped header a file begins with a line for its package, or with an empty line where it
has none. In a run on a loaded model that line always has the names of the directory of the file.

* `SourceFile.opening`: how a file begins;
* `Workbench.NamesDirectory`: a file whose directory and package line have the same names;
* `Workbench.package_lines`: all files that a run writes are of this kind.
-/

namespace GosuForge

namespace SourceFile

/-- How a file in a package begins. -/
def opening (packages : List String) : String :=
  if packages = [] then "\n" else "package " ++ Text.join "." packages ++ "\n"

/-- The first piece of the header is the package line. -/
theorem compose_header {packageName body content : String} {uses : List Value}
    (h : compose (some header) packageName uses body = .ok content) :
    ∃ rest, content =
      (if packageName = "" then "" else "package " ++ packageName ++ "\n") ++ ("\n" ++ rest) := by
  have rendered : compose (some header) packageName uses body =
      .ok (plainFile packageName uses body) := render_header rfl rfl rfl
  rw [rendered, plainFile_eq, headerLines] at h
  cases h
  rw [List.map_append, List.map_append, String.join_append, String.join_append, join_packageLine]
  refine ⟨String.join ((if uses.isEmpty then [] else
    uses.map (fun v => "uses " ++ v.display ++ ";") ++ [""]).map (· ++ "\n")) ++ body, ?_⟩
  simp [String.append_assoc]

theorem join_ne_empty {names : List String} (h : ∀ name ∈ names, name ≠ "") (some : names ≠ []) :
    Text.join "." names ≠ "" := by
  rcases names with _ | ⟨first, _ | ⟨second, rest⟩⟩
  · exact absurd rfl some
  · exact h first List.mem_cons_self
  · rw [Text.join]
    intro empty
    have := congrArg String.length empty
    simp at this

/-- A file begins as its package path says. -/
theorem opening_of_render? {r : Repository} {g : GosuSettings} {m : Model}
    {root : Option ElementId} {id : ElementId} {content : String} {packages : List String}
    (ending : g.general.lineEnding = .str "\n") (nonempty : ∀ name ∈ packages, name ≠ "")
    (path : m.packagePath id root = .ok (packages.map .str))
    (h : (render? r g (some header) root id).answerIn m = .ok (some content)) :
    ∃ rest, content = opening packages ++ rest := by
  rw [render?, Inspection.answerIn_get_bind] at h
  dsimp only at h
  split at h
  · cases h
  · split at h
    · cases h
    · obtain ⟨_, _, -, h⟩ := Inspection.answerIn_bind_eq_ok h
      obtain ⟨_, _, -, h⟩ := Inspection.answerIn_bind_eq_ok h
      obtain ⟨_, _, -, h⟩ := Inspection.answerIn_bind_eq_ok h
      obtain ⟨path', _, hpath, h⟩ := Inspection.answerIn_bind_eq_ok h
      obtain ⟨packageName, _, hname, h⟩ := Inspection.answerIn_bind_eq_ok h
      obtain ⟨composed, _, hcomposed, h⟩ := Inspection.answerIn_bind_eq_ok h
      obtain ⟨ended, _, hended, h⟩ := Inspection.answerIn_bind_eq_ok h
      rw [Inspection.answerIn_lift] at hpath hname hcomposed hended
      cases h
      cases path.symm.trans hpath
      rw [Model.joinNames_str] at hname
      cases hname
      rw [ending] at hended
      cases hended
      obtain ⟨rest, rfl⟩ := compose_header hcomposed
      rw [opening]
      by_cases none : packages = []
      · subst none
        exact ⟨rest, rfl⟩
      · rw [if_neg none, if_neg (join_ne_empty nonempty none)]
        exact ⟨"\n" ++ rest, rfl⟩

end SourceFile

namespace Visit

/-- The declaration that is written at a visit. -/
def declared? (m : Model) (v : Visit) : Option ElementId :=
  if (DeclarationForm.of? (m.get v.id)).isSome then some v.id else none

end Visit

namespace Workbench

/-- A file of a declaration stands in the directory with the names of its package path below the
root, and begins with these names. -/
def NamesDirectory (w : Workbench) (d : Design) (root : ElementId) (directory : Path)
    (file : Path × String) (id : ElementId) : Prop :=
  ∃ (packages : List String) (name rest : String),
    d.model.packagePath id (some root) = .ok (packages.map .str) ∧
    SourceFile.fileName w.generator.settings (d.model.get id) = .ok name ∧
    file.1 = (packages.foldl Path.join directory).join name ∧
    file.2 = SourceFile.opening packages ++ rest

section

variable {σ : Type} {w : Workbench} {d : Design} {root : ElementId} {directory : Path}

/-- A run that succeeds has asked for something at all visits, and all of it was made. -/
theorem made_of_recorded {ids : List ElementId} {storage : Storage σ} {state : σ}
    (plain : d.model.PlainlyNamed) (spans : d.model.Spans root ids)
    (success : (w.recorded d root directory storage state).1.success = true) :
    (∀ v ∈ d.model.visitsFrom root directory, ∃ step,
      v.asks w.generator d.relationships root d.model = .ok step) ∧
    (w.recorded d root directory storage state).2.made =
      w.stepsAt d root (d.model.visitsFrom root directory) := by
  rcases w.recorded_cases d root directory storage state with
    h | ⟨done, refused, rest, fault, m, -, h⟩
  · rw [h, unrefused] at success ⊢
    rw [plan, Plan.make_eq w.generator plain spans directory] at success ⊢
    rcases Plan.ofVisits_cases (Visit.asks w.generator d.relationships root d.model) d.model
        (d.model.visitsFrom root directory) with
      ⟨asked, hc, -⟩ | ⟨_, _, _, fault, -, -, -, -, he⟩
    · refine ⟨asked, ?_⟩
      dsimp only
      rw [Journal.made_allDone, hc]
      rfl
    · rw [he] at success
      cases success
  · rw [h] at success
    cases success

/-- The file that is written at a visit names its directory. -/
theorem namesDirectory_of_asks {top : ElementId} {ids : List ElementId} {v : Visit}
    {step : Option Step} (shipped : w.generator.header = some SourceFile.header)
    (ending : w.generator.settings.general.lineEnding = .str "\n") (tree : d.model.IsTree top ids)
    (hroot : root ∈ ids) (reached : d.model.Reached root directory v)
    (h : v.asks w.generator d.relationships root d.model = .ok step) :
    (step.bind Step.entry? = none ∧ v.declared? d.model = none) ∨
      ∃ file id, step.bind Step.entry? = some file ∧ v.declared? d.model = some id ∧
        w.NamesDirectory d root directory file id := by
  obtain ⟨hid, packages, nonempty, directory_eq, path_eq⟩ :=
    reached.exists_names tree.spans tree.encloses hroot
  obtain ⟨text, htext⟩ := (tree.spans.proper v.id hid).text
  obtain ⟨name, hname⟩ : ∃ name, SourceFile.fileName w.generator.settings (d.model.get v.id) =
      .ok name := by
    rw [SourceFile.fileName, htext]
    exact ⟨_, rfl⟩
  have file_eq := (Visit.asks_eq_ok tree.plain reached.named h).2
  rw [Visit.newFile?, hname] at file_eq
  rw [Visit.declared?]
  by_cases form : (DeclarationForm.of? (d.model.get v.id)).isSome = true
  · rw [if_pos form] at file_eq ⊢
    rcases step with _ | ⟨path | ⟨path, content⟩⟩
    · cases file_eq
    · cases file_eq
    · cases file_eq
      have rendered := Visit.content_of_asks tree.plain h
      rw [shipped] at rendered
      obtain ⟨rest, hrest⟩ := SourceFile.opening_of_render? ending nonempty path_eq rendered
      exact .inr ⟨_, v.id, rfl, rfl, packages, name, rest, path_eq, hname,
        by rw [← directory_eq], hrest⟩
  · rw [if_neg form] at file_eq ⊢
    rcases step with _ | ⟨path | ⟨path, content⟩⟩
    · exact .inl ⟨rfl, rfl⟩
    · exact .inl ⟨rfl, rfl⟩
    · cases file_eq

/-- In a loaded model, whatever root a run starts from, the files that it writes are those of the
declarations that it visits, and the package line of each names its directory. -/
theorem package_lines {document : Value} {loaded : LoadedModel} {ids : List ElementId}
    (w : Workbench) (directory : Path) (storage : Storage σ) (state : σ)
    (h : LoadedModel.ofDocument document = .ok loaded)
    (below : loaded.design.model.elementsBelow loaded.root = .ok ids) (hroot : root ∈ ids)
    (shipped : w.generator.header = some SourceFile.header)
    (ending : w.generator.settings.general.lineEnding = .str "\n")
    (success : (w.run loaded.design root directory storage state).1.success = true) :
    List.Forall₂ (w.NamesDirectory loaded.design root directory)
      ((w.recorded loaded.design root directory storage state).2.made.filterMap Step.entry?)
      ((loaded.design.model.visitsFrom root directory).filterMap
        (Visit.declared? loaded.design.model)) := by
  have tree := LoadedModel.isTree_of_ofDocument h below
  obtain ⟨part, spans, -⟩ := tree.spans.below_of_mem hroot
  rw [run_result_eq] at success
  obtain ⟨asked, made⟩ := made_of_recorded tree.plain spans success
  rw [made, stepsAt, List.filterMap_filterMap]
  refine Outcome.forall₂_filterMap fun v hv => ?_
  obtain ⟨step, hs⟩ := asked v hv
  rw [Visit.step?, hs]
  have reached := Model.reached_of_mem_visits hv
  exact namesDirectory_of_asks shipped ending tree hroot reached hs

end

/-- A package with a package that owns another one, and a class in each of the inner ones. -/
def archive : Value :=
  .obj [("name", .str "app"),
    ("elements", .arr [
      .obj [("kind", .str "package"), ("name", .str "core"),
        ("elements", .arr [
          .obj [("kind", .str "package"), ("name", .str "data"),
            ("elements", .arr [.obj [("name", .str "Item")]])],
          .obj [("name", .str "Main")]])]])]

/-- In a run from the inner package its names are counted from there on. -/
theorem package_lines_archive : ∃ loaded ids,
    LoadedModel.ofDocument archive = .ok loaded ∧
    loaded.design.model.elementsBelow loaded.root = .ok ids ∧ 1 ∈ ids ∧
    standard.generator.header = some SourceFile.header ∧
    standard.generator.settings.general.lineEnding = .str "\n" ∧
    (standard.run loaded.design 1 (.ofString "out") Memory.storage .empty).1.success = true ∧
    List.Forall₂ (standard.NamesDirectory loaded.design 1 (.ofString "out"))
      ((standard.recorded loaded.design 1 (.ofString "out") Memory.storage .empty).2.made.filterMap
        Step.entry?)
      ((loaded.design.model.visitsFrom 1 (.ofString "out")).filterMap
        (Visit.declared? loaded.design.model)) ∧
    loaded.design.model.packagePath 3 (some 1) = .ok [.str "core", .str "data"] ∧
    ((standard.recorded loaded.design 1 (.ofString "out") Memory.storage .empty).2.made.filterMap
      Step.file?) = [.ofString "out/core/data/Item.gs", .ofString "out/core/Main.gs"] := by
  have below : (LoadedModel.ofDocument archive >>= fun loaded =>
      loaded.design.model.elementsBelow loaded.root) = .ok [0, 1, 2, 3, 4] := by
    rfl
  have path : (LoadedModel.ofDocument archive >>= fun loaded =>
      loaded.design.model.packagePath 3 (some 1)) = .ok [.str "core", .str "data"] := by
    rfl
  have run : (LoadedModel.ofDocument archive).toOption.map (fun loaded =>
      ((standard.run loaded.design 1 (.ofString "out") Memory.storage .empty).1.success,
        (standard.recorded loaded.design 1 (.ofString "out") Memory.storage .empty).2.made.filterMap
          Step.file?)) =
      some (true, [.ofString "out/core/data/Item.gs", .ofString "out/core/Main.gs"]) := by
    decide +kernel
  obtain ⟨loaded, h, hbelow⟩ := Outcome.bind_eq_ok.mp below
  rw [h] at path run
  obtain ⟨success, files⟩ := Prod.mk.inj (Option.some.inj run)
  exact ⟨loaded, [0, 1, 2, 3, 4], h, hbelow, by simp, rfl, rfl, success,
    package_lines standard _ _ _ h hbelow (by simp) rfl rfl success, path, files⟩

end Workbench

end GosuForge
