import GosuForge.Proofs.GeneratedFiles
import GosuForge.Proofs.OwnershipTree

/-!
# What is offered for a run

An element is offered as the root of a run by its name and its kind. A run goes by its own rules which
elements it passes over, yet it makes something just where the element that it starts from is offered.

* `Model.IsOffered`, `Model.generatable_eq_ok`: what is offered of a tree;
* `LoadedModel.ReadFrom.exists_tree`: what stands outside of the tree of a loaded model;
* `Workbench.stepsAt_ne_nil_iff`: whether a run has anything to make;
* `Memory.used_of_made`: whether anything was made in an empty memory;
* `Workbench.offered_iff_made`: the two together, in loaded models.
-/

namespace GosuForge

/-- An element has a form by what it is. -/
theorem DeclarationForm.isSome_of? (e : Element) : (of? e).isSome = e.sort?.isSome := by
  rw [of?]
  cases e.sort? with
  | none => rfl
  | some sort =>
    cases sort with
    | classSort =>
      dsimp only
      split
      · rfl
      · split <;> rfl
    | _ => rfl

namespace Model

variable {m : Model} {root id : ElementId} {ids : List ElementId}

/-- A named package or declaration. -/
def IsOffered (m : Model) (id : ElementId) : Prop :=
  (m.get id).isNamed = true ∧
    ((m.get id).isPackage = true ∨ (DeclarationForm.of? (m.get id)).isSome = true)

theorem IsProper.isOffered_iff (proper : m.IsProper id) :
    m.IsOffered id ↔ ((m.get id).isNamed && (m.get id).isGeneratable) = true := by
  rw [IsOffered, DeclarationForm.isSome_of?, Element.isGeneratable, proper.kind]
  simp

/-- Of a tree the elements are offered that have a name and a kind for it. -/
theorem generatable_eq_ok (spans : m.Spans root ids) :
    ∃ offered, m.generatable root = .ok offered ∧ ∀ id, id ∈ offered ↔ id ∈ ids ∧ m.IsOffered id := by
  have read : (ids.mapM fun id => (m.read id).map fun e => (id, e)) =
      .ok (ids.map fun id => (id, m.get id)) := by
    rw [Outcome.mapM_eq_ok, List.forall₂_map_right_iff, List.forall₂_same]
    intro id hid
    rw [(spans.proper id hid).read_eq]
    rfl
  refine ⟨ids.filter fun id => (m.get id).isNamed && (m.get id).isGeneratable, ?_, fun id => ?_⟩
  · rw [generatable, spans.walk_eq]
    refine Outcome.bind_eq_ok.mpr ⟨_, read, ?_⟩
    simp [List.filter_map, Function.comp_def]
  · rw [List.mem_filter]
    exact and_congr_right fun hid => (spans.proper id hid).isOffered_iff.symm

end Model

/-! ## What is no package and no declaration -/

theorem Element.no_form_of_isOther {e : Element} (h : e.isOther = true) :
    e.isPackage = false ∧ DeclarationForm.of? e = none := by
  rw [isOther, Bool.and_eq_true, Bool.and_eq_true, Bool.not_eq_true',
    Option.isNone_iff_eq_none] at h
  obtain ⟨⟨-, package⟩, sort⟩ := h
  refine ⟨package, Option.not_isSome_iff_eq_none.mp ?_⟩
  rw [DeclarationForm.isSome_of?, sort]
  exact Bool.false_ne_true

namespace Draft

variable {resolve : Resolver} {m : Model}

mutual

/-- What stands in a placed draft and is none of its nodes is neither a package nor a declaration. -/
theorem isOther_of_within : ∀ (d : Draft) (outer : List (ElementId × Heading))
    {parent : Option ElementId} {next : ElementId}, d.PlacedAt resolve m parent next →
      ∀ id, Within next d.size id →
        (∃ n ∈ d.nodes outer next, n.1.1 = id) ∨ (m.get id).isOther = true
  | node heading _ body children, outer, parent, next, h, id, within => by
    rw [size, within_add, within_add, ← Nat.add_assoc] at within
    obtain ⟨-, hbody, hchildren⟩ := placedAt_node.mp h
    rw [nodes]
    rcases within with (here | member) | below
    · exact .inl ⟨_, List.mem_cons_self, (within_one.mp here).symm⟩
    · rw [← DraftBody.length_place resolve next (next + 1)] at member
      exact .inr (body.isOther_place _ (hbody.get_mem member))
    · rcases isOther_of_withinAll children _ hchildren id below with ⟨n, hn, e⟩ | other
      · exact .inl ⟨n, List.mem_cons_of_mem _ hn, e⟩
      · exact .inr other

theorem isOther_of_withinAll : ∀ (ds : List Draft) (outer : List (ElementId × Heading))
    {parent : Option ElementId} {next : ElementId},
    List.Forall₂ (fun d n => d.PlacedAt resolve m parent n) ds (numbers next ds) →
      ∀ id, Within next (sizeAll ds) id →
        (∃ n ∈ nodesAll outer next ds, n.1.1 = id) ∨ (m.get id).isOther = true
  | [], _, _, _, _, _, within => absurd within not_within_zero
  | d :: rest, outer, parent, next, h, id, within => by
    rw [numbers, List.forall₂_cons] at h
    rw [sizeAll, within_add] at within
    rw [nodesAll]
    rcases within with first | others
    · rcases isOther_of_within d outer h.1 id first with ⟨n, hn, e⟩ | other
      · exact .inl ⟨n, List.mem_append_left _ hn, e⟩
      · exact .inr other
    · rcases isOther_of_withinAll rest outer h.2 id others with ⟨n, hn, e⟩ | other
      · exact .inl ⟨n, List.mem_append_right _ hn, e⟩
      · exact .inr other

end

end Draft

namespace Model

/-- What is numbered from `k` on is neither a package nor a declaration. -/
def OthersFrom (m : Model) (k : Nat) : Prop := ∀ id, k ≤ id → (m.get id).isOther = true

theorem othersFrom_size (m : Model) : m.OthersFrom m.size := by
  intro id outside
  rw [get_of_size_le outside]
  rfl

theorem OthersFrom.push {m : Model} {k : Nat} (h : m.OthersFrom k) {e : Element}
    (he : e.isOther = true) : (m.push e).OthersFrom k := by
  intro id hk
  rcases Nat.lt_trichotomy id m.size with before | rfl | behind
  · rw [(extends_push m e).2 id before]
    exact h id hk
  · rw [← next, get_push]
    exact he
  · refine othersFrom_size _ id ?_
    simpa [Model.push, size] using Nat.succ_le_of_lt behind

end Model

namespace LoadedModel

variable {document : Value} {whole : Draft} {index : ReferenceIndex} {resolver : Resolver}
  {items : List Value} {loaded : LoadedModel} {es : Entries}

/-- A loaded model is a tree, and what stands outside of it is neither a package nor a declaration. -/
theorem ReadFrom.exists_tree (r : ReadFrom document es whole index resolver items loaded) :
    ∃ ids, loaded.design.model.IsTree loaded.root ids ∧
      ∀ id, id ∈ ids ∨ (loaded.design.model.get id).isOther = true := by
  have below : loaded.design.model.elementsBelow loaded.root =
      .ok ((whole.nodes [] 0).map fun n => n.1.1) := by
    rw [r.root_eq, Draft.elementsBelow_eq r.wellFormed r.placed.1 r.placed.2]
  refine ⟨_, r.isTree below, fun id => ?_⟩
  by_cases inside : id < whole.size
  · rw [List.mem_map]
    exact Draft.isOther_of_within whole [] r.placed.1 id ⟨Nat.zero_le id, by rwa [Nat.zero_add]⟩
  · have before := (whole.toModel resolver).othersFrom_size
    rw [Draft.size_toModel] at before
    have others := addRelationships_keeps (P := fun m => m.OthersFrom whole.size)
      (d := ⟨whole.toModel resolver, []⟩)
      (fun _ _ _ others he => others.push (isOther_of_endOf he)) before r.design_eq
    exact .inr (others id (Nat.le_of_not_lt inside))

end LoadedModel

/-! ## What a run makes -/

/-- In an empty memory there is something after steps that were made, if there were any. -/
theorem Memory.used_of_made {steps : List Step} {after : Memory String}
    (h : Step.Made Memory.storage steps .empty after) :
    after.directories ≠ [] ∨ after.files ≠ [] ↔ steps ≠ [] := by
  cases steps with
  | nil =>
    cases h
    simp [empty]
  | cons step rest =>
    have covered := (covers_of_made h).2.2 step List.mem_cons_self
    simp only [ne_eq, reduceCtorEq, not_false_eq_true, iff_true]
    cases step with
    | directory path => exact .inl (List.ne_nil_of_mem covered)
    | file path content =>
      refine .inr fun none => ?_
      rw [Covers, none] at covered
      cases covered

/-- Every step makes a directory or a file. -/
theorem Step.reported_iff (steps : List Step) :
    steps.filterMap directory? ≠ [] ∨ steps.filterMap file? ≠ [] ↔ steps ≠ [] := by
  cases steps with
  | nil => simp
  | cons step rest => cases step <;> simp [directory?, file?]

namespace Workbench

variable {w : Workbench} {d : Design} {e : ElementId} {path : Path}

/-- The name of a proper element becomes the name of a file. -/
theorem toOption_fileName (proper : d.model.IsProper e) (g : GosuSettings) :
    ((SourceFile.fileName g (d.model.get e)).toOption).isSome = true := by
  obtain ⟨name, hname⟩ := proper.text
  rw [SourceFile.fileName, hname]
  rfl

/-- A run has something to make where it starts from a named package or declaration. -/
theorem stepsAt_ne_nil_iff (plain : d.model.PlainlyNamed) (proper : d.model.IsProper e)
    (made : ∀ v ∈ d.model.visitsFrom e path, ∃ step,
      v.asks w.generator d.relationships e d.model = .ok step) :
    w.stepsAt d e (d.model.visitsFrom e path) ≠ [] ↔ d.model.IsOffered e := by
  have named (v : Visit) (hv : v ∈ d.model.visitsFrom e path) : (d.model.get v.id).isNamed = true :=
    (Model.reached_of_mem_visits hv).named
  obtain ⟨directories, files⟩ := stepsAt_eq plain named made
  rw [← Step.reported_iff, directories, files, Model.IsOffered, Model.visitsFrom, Model.depth,
    Model.visits]
  by_cases hn : (d.model.get e).isNamed = true
  · rw [if_pos hn]
    by_cases hp : (d.model.get e).isPackage = true
    · simp [Visit.newDirectory?, hn, hp]
    · -- What is no package is visited on its own.
      rw [if_neg hp]
      obtain ⟨name, hname⟩ :=
        Option.isSome_iff_exists.mp (toOption_fileName proper w.generator.settings)
      simp [Visit.newDirectory?, Visit.newFile?, hn, hp, hname, ← Option.isSome_iff_ne_none]
  · simp [hn]

/-- What is neither a package nor a declaration is passed over, named or not. -/
theorem plan_of_isOther (plain : d.model.PlainlyNamed) (other : (d.model.get e).isOther = true) :
    w.plan d e path = [] := by
  have built := Element.isBuilt_of_isOther other
  obtain ⟨package, form⟩ := Element.no_form_of_isOther other
  rw [plan, Plan.make, Model.depth, Plan.walk, Model.read_of_isBuilt built]
  dsimp only
  by_cases named : (d.model.get e).isNamed = true
  · have nothing : (Plan.declarationStep? w.generator d.relationships (some e) path e).runIn d.model
        = (.ok none, d.model) := by
      rw [(Plan.declarationStep?_keeps ..).runIn_eq plain, Plan.answerIn_declarationStep? plain,
        Plan.render?_of_no_form form]
      rfl
    simp [named, package, Plan.declarationSteps, nothing]
  · simp [named, Element.hasOwnKind_of_isBuilt built]

/-- A run that succeeds in an empty memory makes its steps, and has some where it starts from what is
offered. -/
theorem exists_steps {w' : Workbench} {m : Model} {result : GenerationResult}
    {after : Memory String} (plain : d.model.PlainlyNamed)
    (known : (∃ part, d.model.Spans e part) ∨ (d.model.get e).isOther = true)
    (run : w.run d e path Memory.storage .empty = (result, w', m, after))
    (success : result.success = true) :
    ∃ steps, result.files = steps.filterMap Step.file? ∧
      result.directories = steps.filterMap Step.directory? ∧
      Step.Made Memory.storage steps .empty after ∧ (steps ≠ [] ↔ d.model.IsOffered e) := by
  rcases known with ⟨part, spans⟩ | other
  · have proper := spans.proper e (Model.mem_walk spans.walk_eq)
    obtain ⟨made, files, directories, hmade⟩ := made_of_success plain spans run success
    exact ⟨_, files, directories, hmade, stepsAt_ne_nil_iff plain proper made⟩
  · rw [run_eq, plan_of_isOther plain other] at run
    cases run
    obtain ⟨package, form⟩ := Element.no_form_of_isOther other
    refine ⟨[], rfl, rfl, rfl, ?_⟩
    simp [Model.IsOffered, package, form]

/-- **What is offered is what makes something**: in every loaded model and for each of its elements,
a run that starts from it and succeeds in an empty memory makes a directory or a file if the element
is among those that are offered, and nothing if it is not. -/
theorem offered_iff_made (w : Workbench) (path : Path) (e : ElementId) {document : Value}
    {loaded : LoadedModel} (h : LoadedModel.ofDocument document = .ok loaded) {w' : Workbench}
    {m : Model} {result : GenerationResult} {after : Memory String}
    (run : w.run loaded.design e path Memory.storage .empty = (result, w', m, after))
    (success : result.success = true) :
    ∃ offered, loaded.design.model.generatable loaded.root = .ok offered ∧
      (e ∈ offered ↔ result.directories ≠ [] ∨ result.files ≠ []) ∧
      (e ∈ offered ↔ after.directories ≠ [] ∨ after.files ≠ []) := by
  obtain ⟨_, _, _, _, _, r⟩ := LoadedModel.ofDocument_eq_ok h
  obtain ⟨ids, tree, others⟩ := r.exists_tree
  obtain ⟨offered, hoffered, mem⟩ := Model.generatable_eq_ok tree.spans
  have known : (∃ part, loaded.design.model.Spans e part) ∨
      (loaded.design.model.get e).isOther = true := by
    refine (others e).imp_left fun inside => ?_
    obtain ⟨part, spans, -⟩ := tree.spans.below_of_mem inside
    exact ⟨part, spans⟩
  have reached : e ∈ offered ↔ loaded.design.model.IsOffered e := by
    rw [mem, and_iff_right_iff_imp]
    rintro ⟨-, some⟩
    refine (others e).resolve_right fun other => ?_
    obtain ⟨package, form⟩ := Element.no_form_of_isOther other
    simp [package, form] at some
  obtain ⟨steps, files, directories, made, hsteps⟩ := exists_steps tree.plain known run success
  refine ⟨offered, hoffered, ?_, ?_⟩
  · rw [reached, ← hsteps, files, directories, Step.reported_iff]
  · rw [reached, ← hsteps, Memory.used_of_made made]

/-- A class in a package without a name, and a plain element. -/
def attic : Value :=
  .obj [("name", .str "app"),
    ("elements", .arr [
      .obj [("kind", .str "package"), ("name", .str ""),
        ("elements", .arr [
          .obj [("name", .str "Item"), ("attributes", .arr [.obj [("name", .str "size")]])]])],
      .obj [("kind", .str "note"), ("name", .str "Todo")]])]

/-- The class is offered and can be generated on its own, though a run from its package makes
nothing. -/
theorem offered_iff_made_attic : ∃ loaded result w' m after,
    LoadedModel.ofDocument attic = .ok loaded ∧
    loaded.design.model.generatable loaded.root = .ok [0, 2] ∧
    standard.run loaded.design 2 (.ofString "out") Memory.storage .empty = (result, w', m, after) ∧
    result.success = true ∧ (result.directories ≠ [] ∨ result.files ≠ []) ∧
    (after.directories ≠ [] ∨ after.files ≠ []) ∧
    (standard.run loaded.design 1 (.ofString "out") Memory.storage .empty).1.success = true ∧
    (standard.run loaded.design 1 (.ofString "out") Memory.storage .empty).2.2.2.files = [] := by
  have candidates : (LoadedModel.ofDocument attic >>= fun loaded =>
      loaded.design.model.generatable loaded.root) = .ok [0, 2] := by
    rfl
  have runs : (LoadedModel.ofDocument attic).toOption.map (fun loaded =>
      ((standard.run loaded.design 2 (.ofString "out") Memory.storage .empty).1.success,
        (standard.run loaded.design 1 (.ofString "out") Memory.storage .empty).1.success,
        (standard.run loaded.design 1 (.ofString "out") Memory.storage .empty).2.2.2.files)) =
      some (true, true, []) := by
    decide +kernel
  obtain ⟨loaded, h, hoffered⟩ := Outcome.bind_eq_ok.mp candidates
  rw [h] at runs
  obtain ⟨success, others⟩ := Prod.mk.inj (Option.some.inj runs)
  obtain ⟨success', nothing⟩ := Prod.mk.inj others
  rcases run : standard.run loaded.design 2 (.ofString "out") Memory.storage .empty with
    ⟨result, w', m, after⟩
  rw [run] at success
  obtain ⟨offered, same, reported, kept⟩ := offered_iff_made standard _ 2 h run success
  rw [hoffered] at same
  cases same
  exact ⟨loaded, result, w', m, after, h, hoffered, run, success, reported.mp (by simp),
    kept.mp (by simp), success', nothing⟩

end Workbench

end GosuForge
