import GosuForge.Document.Load
import GosuForge.Proofs.Ancestry
import GosuForge.Proofs.Path
import GosuForge.Proofs.Run

/-!
# Runs that stay inside the folder of their output

Whatever is made for an element is put into the directory around it under one text: the name of a
package, or the name of a file. A run stays inside its folder if these texts lead down.

* `Element.outputName?`: that text;
* `Plan.isWithin_of_mem_walk`: where such texts lead down, all that is made for an element stands
  within the path of its own output;
* `Workbench.stays_inside`: then a run stays inside its folder, and a run that can be completed
  does so in that case only, if the path of the folder is relative.
-/

namespace GosuForge

/-- The path that a step makes. -/
def Step.path : Step → Path
  | directory path => path
  | file path _ => path

/-- What the output for an element is called in the directory around it. -/
def Element.outputName? (g : GosuSettings) (e : Element) : Option String :=
  if e.isPackage then
    match e.name with
    | .str name => some name
    | _ => none
  else if (DeclarationForm.of? e).isSome then (SourceFile.fileName g e).toOption
  else none

theorem Element.outputName?_of_isPackage {g : GosuSettings} {e : Element} {name : String}
    (package : e.isPackage = true) : e.outputName? g = some name ↔ e.name = .str name := by
  rw [outputName?, if_pos package]
  split
  · rename_i text h
    rw [h]
    simp
  · rename_i other
    exact iff_of_false nofun (other name)

theorem Model.Reached.below_root {m : Model} {root : ElementId} {directory : Path} {v : Visit}
    (h : m.Reached root directory v) : m.Below root v.id := by
  induction h with
  | root _ => exact .refl
  | owned _ _ hc _ ih => exact ih.tail hc

/-- The same elements are reached from every directory. -/
theorem Model.Reached.elsewhere {m : Model} {root : ElementId} {directory : Path} {v : Visit}
    (h : m.Reached root directory v) (other : Path) :
    ∃ place, m.Reached root other ⟨v.id, place⟩ := by
  induction h with
  | root hn => exact ⟨other, .root hn⟩
  | owned _ package hc hn ih =>
    obtain ⟨place, reached⟩ := ih
    exact ⟨_, reached.owned package hc hn⟩

theorem Element.nameText_eq {e : Element} {name : String} (h : e.name = .str name) :
    e.nameText = name := by
  rw [nameText, h]

/-- In the tree of a root, outputs are called by texts that lead down, and the output of the root is
not the folder itself. -/
structure Model.NamesLeadDown (m : Model) (g : GosuSettings) (root : ElementId) : Prop where
  down : ∀ v, m.Reached root .here v →
    ∀ name, (m.get v.id).outputName? g = some name → Path.LeadsDown name
  on : (m.get root).isNamed = true →
    ∀ name, (m.get root).outputName? g = some name → (Path.ofString name).parts ≠ []

/-! ## The steps of a plan -/

namespace Plan

variable {g : Generator} {r : Repository} {top : Option ElementId} {m : Model} {root : ElementId}

theorem exists_of_mem_calls {plan : Plan} {step : Step} (h : step ∈ plan.calls) :
    ∃ planned ∈ plan, planned.step = .ok step := by
  induction plan with
  | nil => exact absurd h List.not_mem_nil
  | cons planned rest ih =>
    obtain ⟨fault | first, after⟩ := planned
    · exact absurd h List.not_mem_nil
    · rcases List.mem_cons.mp h with rfl | h
      · exact ⟨_, List.mem_cons_self, rfl⟩
      · obtain ⟨planned, hp, hs⟩ := ih h
        exact ⟨planned, List.mem_cons_of_mem _ hp, hs⟩

/-- The file of a declaration stands in the directory around it. -/
theorem path_of_declarationStep? (plain : m.PlainlyNamed) {directory : Path} {id : ElementId}
    {step : Step} (named : (m.get id).isNamed = true) (noPackage : (m.get id).isPackage = false)
    (h : (declarationStep? g r top directory id).answerIn m = .ok (some step)) :
    ∃ name, (m.get id).outputName? g.settings = some name ∧ step.path = directory.join name := by
  rw [answerIn_declarationStep? plain] at h
  obtain ⟨content, hr, h⟩ := Outcome.bind_eq_ok.mp h
  cases content with
  | none => cases h
  | some content =>
    obtain ⟨name, hname, e⟩ := Outcome.map_eq_ok.mp h
    cases e
    have declared : (DeclarationForm.of? (m.get id)).isSome = true :=
      (isSome_of_render? named hr).symm
    refine ⟨name, ?_, rfl⟩
    simp [Element.outputName?, noPackage, declared, hname, Except.toOption]

/-- Whatever is made for an element stands within the path of its own output. -/
theorem isWithin_of_mem_walk (plain : m.PlainlyNamed)
    (down : ∀ v, m.Reached root .here v →
      ∀ name, (m.get v.id).outputName? g.settings = some name → Path.LeadsDown name)
    {fuel : Nat} {directory : Path} {id : ElementId}
    (reached : (m.get id).isNamed = true → ∃ place, m.Reached root .here ⟨id, place⟩)
    {planned : PlannedStep} (h : planned ∈ walk g r top fuel directory m id) {step : Step}
    (hs : planned.step = .ok step) :
    (m.get id).isNamed = true ∧ ∃ name, (m.get id).outputName? g.settings = some name ∧
      step.path.IsWithin (directory.join name) := by
  have failed {fault : Fault} {planned : PlannedStep} (hs : planned.step = .ok step)
      (h : planned ∈ [PlannedStep.mk (.error fault) m]) : False := by
    rw [List.mem_singleton.mp h] at hs
    cases hs
  -- Each package is entered within the output of the one around it, so the names only become more.
  induction fuel generalizing directory id planned with
  | zero => exact (failed hs h).elim
  | succ fuel ih =>
    rw [walk] at h
    split at h
    · exact (failed hs h).elim
    · rename_i e he
      obtain rfl := Model.read_eq_ok he
      split at h
      · split at h
        · exact absurd h List.not_mem_nil
        · exact (failed hs h).elim
      · rename_i isNamed
        have named : (m.get id).isNamed = true := by simpa using isNamed
        obtain ⟨place, reached⟩ := reached named
        refine ⟨named, ?_⟩
        split at h
        · rename_i package
          split at h
          · rename_i name hname
            refine ⟨name, (Element.outputName?_of_isPackage package).mpr hname, ?_⟩
            rcases List.mem_cons.mp h with rfl | h
            · cases hs
              exact .refl _
            · split at h
              · exact (failed hs h).elim
              · rename_i owned howned
                obtain ⟨child, hc, h⟩ :=
                  exists_of_mem_chain (fun _ _ _ => after_of_mem_walk plain) h
                have owned := Model.ownedBy_of_given howned ▸ hc
                have reachedChild (hn : (m.get child).isNamed = true) :
                    m.Reached root .here ⟨child, place.join (m.get id).nameText⟩ :=
                  reached.owned package owned hn
                obtain ⟨hn, below, hb, within⟩ := ih (fun hn => ⟨_, reachedChild hn⟩) h hs
                exact within.trans (Path.isWithin_join _ (down _ (reachedChild hn) below hb))
          · exact (failed hs h).elim
        · rename_i noPackage
          rw [declarationSteps, (declarationStep?_keeps g r top directory id).runIn_eq plain] at h
          rcases ha : (declarationStep? g r top directory id).answerIn m with fault | _ | made <;>
            rw [ha] at h
          · exact (failed hs h).elim
          · exact absurd h List.not_mem_nil
          · rw [List.mem_singleton.mp h] at hs
            cases hs
            obtain ⟨name, hname, e⟩ :=
              path_of_declarationStep? plain named (Bool.not_eq_true _ ▸ noPackage) ha
            exact ⟨name, hname, e ▸ .refl _⟩

/-- What a run makes stands below the folder of its output. -/
theorem isBelow_of_namesLeadDown (plain : m.PlainlyNamed) (names : m.NamesLeadDown g.settings root)
    {fuel : Nat} {directory : Path} {planned : PlannedStep}
    (h : planned ∈ walk g r top fuel directory m root) {step : Step}
    (hs : planned.step = .ok step) : step.path.IsBelow directory := by
  have reached (hn : (m.get root).isNamed = true) : ∃ place, m.Reached root .here ⟨root, place⟩ :=
    ⟨.here, .root hn⟩
  obtain ⟨hn, name, hname, within⟩ := isWithin_of_mem_walk plain names.down reached h hs
  have down := names.down _ (.root hn) name hname
  exact within.isBelow (directory.isBelow_join down (names.on hn name hname))

end Plan

/-- What is asked for at a visit is made under the name of the output. -/
theorem Visit.path_of_asks {g : Generator} {r : Repository} {root : ElementId} {m : Model}
    {v : Visit} (plain : m.PlainlyNamed) (named : (m.get v.id).isNamed = true)
    {step : Option Step} (h : v.asks g r root m = .ok step) {name : String}
    (hname : (m.get v.id).outputName? g.settings = some name) :
    ∃ made, step = some made ∧ made.path = v.directory.join name := by
  obtain ⟨directory, file⟩ := v.asks_eq_ok plain named h
  by_cases package : (m.get v.id).isPackage = true
  · rw [newDirectory?, if_pos package,
      Element.nameText_eq ((Element.outputName?_of_isPackage package).mp hname)] at directory
    obtain ⟨made, rfl, e⟩ := Option.bind_eq_some_iff.mp directory
    cases made <;> cases e
    exact ⟨_, rfl, rfl⟩
  · rw [Element.outputName?, if_neg package] at hname
    split at hname
    · rename_i declared
      rw [newFile?, if_pos declared, hname] at file
      obtain ⟨made, rfl, e⟩ := Option.bind_eq_some_iff.mp file
      cases made <;> cases e
      exact ⟨_, rfl, rfl⟩
    · cases hname

namespace Workbench

variable {w : Workbench} {d : Design} {root : ElementId}

/-- All that a run asks of a destination stands below a folder, whatever is refused. -/
def StaysInside (w : Workbench) (d : Design) (root : ElementId) (path : Path) : Prop :=
  ∀ {σ : Type} (storage : Storage σ) (state : σ),
    ∀ step ∈ (w.recorded d root path storage state).2.calls, step.path.IsBelow path

/-- A run asks for nothing that is not in its plan. -/
theorem mem_calls_plan {σ : Type} {storage : Storage σ} {state : σ} {path : Path} {step : Step}
    (h : step ∈ (w.recorded d root path storage state).2.calls) :
    step ∈ (w.plan d root path).calls := by
  rcases w.recorded_cases d root path storage state with
    e | ⟨done, refused, rest, fault, m, hc, e⟩
  · rw [e, unrefused, Journal.calls_allDone] at h
    exact h
  · rw [e, Journal.calls_append, Journal.calls_allDone] at h
    rw [hc]
    rcases List.mem_append.mp h with h | h
    · exact List.mem_append_left _ h
    · obtain rfl := List.mem_singleton.mp h
      exact List.mem_append_right _ List.mem_cons_self

/-- A run that can be completed asks for the output of everything that it reaches. -/
theorem exists_call_of_reached (plain : d.model.PlainlyNamed) {ids : List ElementId}
    (spans : d.model.Spans root ids) {path : Path}
    (success : (w.recorded d root path Storage.accepting ()).1.success = true) {v : Visit}
    (reached : d.model.Reached root path v) {name : String}
    (hname : (d.model.get v.id).outputName? w.generator.settings = some name) :
    ∃ step ∈ (w.recorded d root path Storage.accepting ()).2.calls,
      step.path = v.directory.join name := by
  rw [recorded_accepting, unrefused] at success ⊢
  rw [Journal.calls_allDone]
  obtain ⟨visited, rest, hv, written, calls, ended⟩ := w.unrefused_cases path plain spans
  rcases ended with ⟨rfl, -⟩ | ⟨_, _, fault, -, -, ended⟩
  · rw [List.append_nil] at hv
    have walked : (d.model.walk d.model.depth root).2 = none := by rw [spans.walk_eq]
    have hmem : v ∈ visited := hv ▸ (Model.mem_visits_iff walked).mpr reached
    have text : ∃ name, (d.model.get v.id).name = .str name :=
      (spans.proper v.id ((Model.visits_sublist spans.walk_eq).subset
        (List.mem_map_of_mem (hv ▸ hmem)))).text
    cases ha : v.asks w.generator d.relationships root d.model with
    | error fault =>
      have faulty := Visit.fault?_of_asks_eq_error plain text ha
      rw [written v hmem] at faulty
      cases faulty
    | ok step =>
      obtain ⟨made, rfl, e⟩ := Visit.path_of_asks plain reached.named ha hname
      refine ⟨made, ?_, e⟩
      rw [calls, stepsAt]
      exact List.mem_filterMap.mpr ⟨v, hmem, by rw [Visit.step?, ha]⟩
  · rw [ended] at success
    cases success

/-- Packages are entered within a folder that their own output stays in. -/
theorem isWithin_of_reached {ids : List ElementId} (spans : d.model.Spans root ids) {path : Path}
    (inside : ∀ v, d.model.Reached root path v → ∀ name,
      (d.model.get v.id).outputName? w.generator.settings = some name →
        (v.directory.join name).IsWithin path)
    {v : Visit} (reached : d.model.Reached root path v) : v.directory.IsWithin path := by
  cases reached with
  | root _ => exact .refl _
  | @owned v _ reached package _ _ =>
    obtain ⟨name, hname⟩ := (spans.proper v.id (spans.mem_of_below reached.below_root)).text
    rw [Element.nameText_eq hname]
    exact inside v reached name ((Element.outputName?_of_isPackage package).mpr hname)

/-- **Runs stay inside their folder** where the names of their outputs lead down. A run into a folder
with a relative path that nothing keeps from being completed does so in no other case. -/
theorem stays_inside (plain : d.model.PlainlyNamed) :
    (d.model.NamesLeadDown w.generator.settings root → ∀ path, w.StaysInside d root path) ∧
    ∀ path ids, path.anchor = .relative → d.model.Spans root ids →
      (w.recorded d root path Storage.accepting ()).1.success = true →
      w.StaysInside d root path → d.model.NamesLeadDown w.generator.settings root := by
  constructor
  · intro names path σ storage state step hs
    obtain ⟨planned, hp, hs⟩ := Plan.exists_of_mem_calls (mem_calls_plan hs)
    exact Plan.isBelow_of_namesLeadDown plain names hp hs
  · intro path ids relative spans success inside
    have down (v : Visit) (reached : d.model.Reached root path v) (name : String)
        (hname : (d.model.get v.id).outputName? w.generator.settings = some name) :
        (v.directory.join name).IsBelow path := by
      obtain ⟨step, hs, e⟩ := exists_call_of_reached plain spans success reached hname
      exact e ▸ inside _ _ step hs
    have within (v : Visit) (reached : d.model.Reached root path v) : v.directory.IsWithin path :=
      isWithin_of_reached spans (fun v hv name hname => (down v hv name hname).isWithin) reached
    refine ⟨fun v reached name hname => ?_, fun hn name hname => ?_⟩
    · obtain ⟨place, reached⟩ := reached.elsewhere path
      exact Path.leadsDown_of_join relative (within _ reached)
        (down _ reached name hname).isWithin
    · exact Path.parts_ne_nil_of_join relative (down _ (.root hn) name hname)

theorem shop_namesLeadDown : shop.model.NamesLeadDown standard.generator.settings 0 where
  down v reached name hname := by
    have hid := shop_spans.mem_of_below reached.below_root
    simp only [List.mem_cons, List.not_mem_nil, or_false] at hid
    rcases hid with hid | hid | hid | hid | hid <;> rw [hid] at hname <;> cases hname <;>
      exact ⟨by decide, by decide⟩
  on _ name hname := by
    cases hname
    decide

theorem stays_inside_shop : shop.model.PlainlyNamed ∧
    shop.model.NamesLeadDown standard.generator.settings 0 ∧ shop.model.Spans 0 [0, 1, 3, 4, 2] ∧
    (standard.recorded shop 0 .here Storage.accepting ()).1.success = true ∧
    ∀ path, standard.StaysInside shop 0 path :=
  ⟨shop_plainlyNamed, shop_namesLeadDown, shop_spans, by decide +kernel,
    (stays_inside shop_plainlyNamed).1 shop_namesLeadDown⟩

/-! ## A package that is called by two points -/

def climbing : Design where
  model := ⟨#[.newNamed ".." none (.package [])]⟩
  relationships := []

/-- The directory of such a package is not below the folder of the output, and a document may have
such a package. -/
theorem leaves_folder :
    (LoadedModel.ofDocument (.obj [("name", .str ".."), ("kind", .str "package")])).map
      (fun loaded => (loaded.design, loaded.root)) = .ok (climbing, 0) ∧
    (standard.recorded climbing 0 (.ofString "out") Storage.accepting ()).2.calls =
      [.directory ⟨.relative, ["out", ".."]⟩] ∧
    ¬ standard.StaysInside climbing 0 (.ofString "out") := by
  have calls : (standard.recorded climbing 0 (.ofString "out") Storage.accepting ()).2.calls =
      [.directory ⟨.relative, ["out", ".."]⟩] := by decide +kernel
  refine ⟨rfl, calls, fun inside => ?_⟩
  have asked : .directory ⟨.relative, ["out", ".."]⟩ ∈
      (standard.recorded climbing 0 (.ofString "out") Storage.accepting ()).2.calls := by
    rw [calls]
    exact List.mem_singleton_self _
  obtain ⟨names, -, down, e⟩ := inside Storage.accepting () _ asked
  have parts : ["out", ".."] = ["out"] ++ names := congrArg Path.parts e
  cases parts
  exact down (List.mem_singleton_self _)

end Workbench

end GosuForge
