import GosuForge.Proofs.DeclarationBody

/-!
# The functions of a class

A class is written with functions for its own operations, for the abstract operations of its first
superclass and for the operations of each interface that it realizes.

* `DeclaredFunction`: a function with the operation that it is written for and its signature;
* `Declaration.Body.writtenFunctions`: the functions of a declaration;
* `Declaration.class_body`: the parts of the declaration of a class, and the groups of its stubs;
* `Declaration.exists_source`: each group is of the operations of one element;
* `Declaration.class_functions`: two functions are alike just where two groups have such operations.
-/

namespace GosuForge

open Inspection

/-- A function of a declaration: the operation that it is written for, its signature and its text. -/
structure DeclaredFunction where
  operation : ElementId
  signature : Signature
  text : Script

/-- The text is that of a function with the signature of the operation. -/
structure DeclaredFunction.IsWritten (g : GosuSettings) (m : Model) (f : DeclaredFunction) :
    Prop where
  signature_eq : Member.signature m (m.get f.operation) = .ok f.signature
  isFunction : ∃ withBody, Member.IsFunction g (m.get f.operation) f.signature withBody f.text

theorem DeclaredFunction.IsWritten.eq_of_signature {g : GosuSettings} {m : Model}
    {f : DeclaredFunction} (h : f.IsWritten g m) {s : Signature}
    (hs : Member.signature m (m.get f.operation) = .ok s) : f.signature = s :=
  Except.ok.inj (h.signature_eq.symm.trans hs)

namespace Declaration

/-- Two named operations are written as functions of one name with the same types of parameters. -/
def Alike (m : Model) (o o' : ElementId) : Prop :=
  (m.get o).isNamed = true ∧ (m.get o').isNamed = true ∧
    ∃ s, Member.signature m (m.get o) = .ok s ∧ Member.signature m (m.get o') = .ok s

/-- The operations that are written as functions: those with a name. -/
def namedOf (m : Model) (ids : List ElementId) : List ElementId :=
  ids.filter fun o => (m.get o).isNamed

/-- The functions of a body without the empty texts of operations that have no name. -/
def Body.writtenFunctions {r : Repository} {g : GosuSettings} {m : Model} {form : DeclarationForm}
    {id : ElementId} (b : Body r g m form id) : List Script :=
  b.functions.filter fun f => !f.isEmpty

section

variable {r : Repository} {g : GosuSettings} {m : Model} {id : ElementId}

/-! ## Functions and their signatures -/

/-- There is one function for each operation with a name. -/
theorem exists_declared (plain : m.PlainlyNamed) {ids : List ElementId} {fs : List Script}
    (h : List.Forall₂ (fun o f => ∃ withBody, Member.WrittenFunction g m withBody true o f) ids fs) :
    ∃ functions : List DeclaredFunction, functions.map (·.operation) = namedOf m ids ∧
      functions.map (·.text) = (fs.filter fun f => !f.isEmpty) ∧
      ∀ f ∈ functions, f.IsWritten g m := by
  induction h with
  | nil => exact ⟨[], rfl, rfl, nofun⟩
  | @cons o f ids fs first _ ih =>
    obtain ⟨withBody, written⟩ := first
    obtain ⟨functions, operations, texts, all⟩ := ih
    cases named : (m.get o).isNamed with
    | false =>
      rw [written.isFunction.2 named]
      refine ⟨functions, ?_, texts, all⟩
      rwa [namedOf, List.filter_cons_of_neg (by simp [named])]
    | true =>
      obtain ⟨s, hsignature, function⟩ := written.exists_signature plain named
      have some : (!f.isEmpty) = true := by
        obtain ⟨_, _, _, _, -, -, rfl⟩ := function
        simp
      refine ⟨⟨o, s, f⟩ :: functions, ?_, ?_,
        List.forall_mem_cons.mpr ⟨⟨hsignature, withBody, function⟩, all⟩⟩
      · rw [namedOf, List.filter_cons_of_pos (by simpa using named), List.map_cons, operations,
          namedOf]
      · rw [List.filter_cons_of_pos (by simpa using some), List.map_cons, texts]

/-- Functions that are written one after the other for groups of operations. -/
theorem exists_parts {groups : List (List ElementId)} {functions : List DeclaredFunction}
    (h : functions.map (·.operation) = namedOf m groups.flatten) :
    ∃ parts : List (List DeclaredFunction), parts.flatten = functions ∧
      List.Forall₂ (fun ids part => part.map (·.operation) = namedOf m ids) groups parts := by
  induction groups generalizing functions with
  | nil => exact ⟨[], (List.map_eq_nil_iff.mp h).symm, .nil⟩
  | cons ids groups ih =>
    rw [List.flatten_cons, namedOf, List.filter_append] at h
    obtain ⟨front, back, rfl, hfront, hback⟩ := List.map_eq_append_iff.mp h
    obtain ⟨parts, rfl, hparts⟩ := ih hback
    exact ⟨front :: parts, rfl, .cons hfront hparts⟩

/-- Functions for operations of which no two are alike have different signatures. -/
theorem nodup_signatures {ids : List ElementId} {functions : List DeclaredFunction}
    (distinct : ids.Pairwise fun o o' => ¬ Alike m o o')
    (operations : functions.map (·.operation) = namedOf m ids)
    (written : ∀ f ∈ functions, f.IsWritten g m) : (functions.map (·.signature)).Nodup := by
  have named : ∀ f ∈ functions, (m.get f.operation).isNamed = true := by
    intro f hf
    have among : f.operation ∈ namedOf m ids := operations ▸ List.mem_map_of_mem hf
    exact (List.mem_filter.mp among).2
  have apart : (functions.map (·.operation)).Pairwise fun o o' => ¬ Alike m o o' := by
    rw [operations]
    exact distinct.filter _
  rw [List.pairwise_map] at apart
  refine List.pairwise_map.mpr (apart.imp_of_mem fun {f f'} hf hf' other same => other ?_)
  exact ⟨named f hf, named f' hf', f.signature, (written f hf).signature_eq,
    same ▸ (written f' hf').signature_eq⟩

/-! ## Groups of operations -/

theorem operationsOf_eq_ok {source : ElementId} {ids : List ElementId}
    (h : operationsOf m (some source) = .ok ids) : m.operationsOf source = ids :=
  Members.orNone_eq_ok h

/-- A group without a source is empty. -/
theorem exists_operationsOf {source : Option ElementId} {ids : List ElementId}
    (h : operationsOf m source = .ok ids) : ∃ id, ids.Sublist (m.operationsOf id) := by
  cases source with
  | none =>
    cases h
    exact ⟨0, List.nil_sublist _⟩
  | some id =>
    rw [← operationsOf_eq_ok h]
    exact ⟨id, List.Sublist.refl _⟩

/-- Where the stubs of a class come from. -/
theorem stubGroups_eq_ok {stubs : List (List ElementId)}
    (h : stubGroups r m m .classForm id = .ok stubs) :
    ∃ superClasses inherited interfaces implemented,
      r.superClasses m id = .ok superClasses ∧
      operationsOf m (superClasses.head?.getD none) = .ok inherited ∧
      r.superInterfaces m id = .ok interfaces ∧ interfaces.mapM (operationsOf m) = .ok implemented ∧
      stubs = inherited.filter (fun o => Modifier.isAbstract (m.get o)) :: implemented := by
  obtain ⟨inherited, hinherited, h⟩ := Outcome.bind_eq_ok.mp h
  obtain ⟨superClasses, hsuper, hinherited⟩ := Outcome.bind_eq_ok.mp hinherited
  obtain ⟨ids, hids, hinherited⟩ := Outcome.bind_eq_ok.mp hinherited
  obtain ⟨interfaces, hinterfaces, h⟩ := Outcome.bind_eq_ok.mp h
  obtain ⟨implemented, himplemented, h⟩ := Outcome.bind_eq_ok.mp h
  cases hinherited
  cases h
  exact ⟨superClasses, ids, interfaces, implemented, hsuper, hids, hinterfaces, himplemented, rfl⟩

/-- The operations of a group are some of those of one element, in their order. -/
theorem exists_source {stubs : List (List ElementId)}
    (h : stubGroups r m m .classForm id = .ok stubs) :
    ∀ group ∈ m.operationsOf id :: stubs, ∃ source, group.Sublist (m.operationsOf source) := by
  obtain ⟨_, inherited, _, implemented, -, hinherited, -, himplemented, rfl⟩ := stubGroups_eq_ok h
  refine List.forall_mem_cons.mpr ⟨⟨id, List.Sublist.refl _⟩,
    List.forall_mem_cons.mpr ⟨?_, fun group hg => ?_⟩⟩
  · obtain ⟨source, hs⟩ := exists_operationsOf hinherited
    exact ⟨source, List.filter_sublist.trans hs⟩
  · obtain ⟨interface, -, hi⟩ := Outcome.exists_of_mem_mapM himplemented _ hg
    exact exists_operationsOf hi

/-! ## A class -/

/-- The parts of the declaration of a class where no element is named by a list. -/
theorem class_body (plain : m.PlainlyNamed) {s : Script}
    (h : (script r g .classForm id).answerIn m = .ok s) :
    ∃ (b : Body r g m .classForm id) (inner : Script), s = b.script ++ inner ++ close ∧
      (nestedScript r g m.depth id).answerIn m = .ok inner ∧
      stubGroups r m m .classForm id = .ok b.groups := by
  have around : DeclarationForm.classForm ≠ .enumeration := nofun
  rw [script, answerIn_get_bind] at h
  obtain ⟨b, inner, m', grown, hinner, rfl⟩ := exists_body around h
  have groups := b.groups_eq
  rw [b.grown.eq_of_plainlyNamed plain] at groups
  rw [grown.eq_of_plainlyNamed plain] at hinner
  exact ⟨b, inner, rfl, hinner, groups⟩

/-- **The functions of a class.** A class is its comment, opening line, constructor and variables, then
one function for each operation with a name of its groups, which are its own operations and those that
it has stubs for, then what is nested in it. Where no classifier has two operations that are alike, no
two functions of one group have the same signature, and no two functions of the class have if and only
if no two groups have functions of the same signature. -/
theorem class_functions (plain : m.PlainlyNamed)
    (distinct : ∀ id, (m.operationsOf id).Pairwise fun o o' => ¬ Alike m o o') {s : Script}
    (h : (script r g .classForm id).answerIn m = .ok s) :
    ∃ (b : Body r g m .classForm id) (inner : Script) (stubs : List (List ElementId))
      (functions : List (List DeclaredFunction)),
      s = b.script ++ inner ++ close ∧ (nestedScript r g m.depth id).answerIn m = .ok inner ∧
      stubGroups r m m .classForm id = .ok stubs ∧
      List.Forall₂ (fun ids part => part.map (·.operation) = namedOf m ids)
        (m.operationsOf id :: stubs) functions ∧
      b.writtenFunctions = functions.flatten.map (·.text) ∧
      (∀ f ∈ functions.flatten, f.IsWritten g m) ∧
      (∀ part ∈ functions, (part.map (·.signature)).Nodup) ∧
      ((functions.flatten.map (·.signature)).Nodup ↔
        functions.Pairwise fun part part' =>
          (part.map (·.signature)).Disjoint (part'.map (·.signature))) := by
  obtain ⟨b, inner, hs, hinner, hgroups⟩ := class_body plain h
  have written : List.Forall₂ (fun o f => ∃ withBody, Member.WrittenFunction g m withBody true o f)
      (m.operationsOf id :: b.groups).flatten b.functions :=
    List.rel_append (b.own_written.imp fun _ _ h => ⟨_, h⟩) (b.stubs_written.imp fun _ _ h => ⟨_, h⟩)
  obtain ⟨all, operations, texts, isWritten⟩ := exists_declared plain written
  obtain ⟨functions, rfl, parts⟩ := exists_parts operations
  have within : ∀ part ∈ functions, (part.map (·.signature)).Nodup := by
    intro part hpart
    obtain ⟨group, hg, operations⟩ := Outcome.exists_of_forall₂ parts.flip part hpart
    obtain ⟨source, hs⟩ := exists_source hgroups group hg
    exact nodup_signatures ((distinct source).sublist hs) operations fun f hf =>
      isWritten f (List.mem_flatten_of_mem hpart hf)
  refine ⟨b, inner, b.groups, functions, hs, hinner, hgroups, parts, texts.symm, isWritten, within,
    ?_⟩
  have each : ∀ signatures ∈ functions.map (List.map (·.signature)), signatures.Nodup :=
    List.forall_mem_map.mpr within
  rw [List.map_flatten, List.nodup_flatten, and_iff_right each, List.pairwise_map]

end

/-- A class with an operation of its own, an abstract one of its superclass and one of its
interface. -/
def machine : Design where
  model := ⟨#[
    .newNamed "Robot" none (.classifier { Classifier.new .classSort with operations := [3] }),
    .newNamed "Device" none (.classifier { Classifier.new .classSort with operations := [4] }),
    .newNamed "Resettable" none
      (.classifier { Classifier.new .interface with operations := [5] }),
    .newNamed "run" (some 0) (.operation []),
    { Element.newNamed "stop" (some 1) (.operation []) with
      flags := { Flags.none with isAbstract := true } },
    .newNamed "reset" (some 2) (.operation [])]⟩
  relationships := [.directed .generalization (.str "") (some 0) (some 1),
    .directed .realization (.str "") (some 0) (some 2)]

theorem machine_plainlyNamed : machine.model.PlainlyNamed := by
  refine Model.plainlyNamed_of_texts fun e he => ?_
  simp only [machine, Array.mem_def, List.mem_cons, List.not_mem_nil, or_false] at he
  rcases he with rfl | rfl | rfl | rfl | rfl | rfl <;> exact ⟨_, rfl⟩

/-- The class has three functions, no two of which are alike, since no two groups have operations that
are. -/
theorem class_functions_machine : machine.model.PlainlyNamed ∧
    (∀ id, (machine.model.operationsOf id).Pairwise fun o o' => ¬ Alike machine.model o o') ∧
    ∃ (b : Body machine.relationships .standard machine.model .classForm 0)
      (functions : List DeclaredFunction),
      (script machine.relationships .standard .classForm 0).answerIn machine.model =
        .ok (b.script ++ close) ∧
      b.writtenFunctions = functions.map (·.text) ∧
      (∀ f ∈ functions, f.IsWritten .standard machine.model) ∧
      functions.map (·.operation) = [3, 4, 5] ∧ (functions.map (·.signature)).Nodup := by
  have distinct (id : ElementId) :
      (machine.model.operationsOf id).Pairwise fun o o' => ¬ Alike machine.model o o' := by
    match id with
    | 0 | 1 | 2 => exact List.pairwise_singleton ..
    | 3 | 4 | 5 | _ + 6 => exact .nil
  have written : ((script machine.relationships .standard .classForm 0).answerIn
      machine.model).toOption.isSome = true := by
    decide +kernel
  have groups : stubGroups machine.relationships machine.model machine.model .classForm 0 =
      .ok [[4], [5]] := by
    rfl
  have innermost : (nestedScript machine.relationships .standard machine.model.depth 0).answerIn
      machine.model = .ok [] := by
    rfl
  cases h : (script machine.relationships .standard .classForm 0).answerIn machine.model with
  | error fault =>
    rw [h] at written
    cases written
  | ok s =>
    obtain ⟨b, inner, stubs, functions, rfl, hinner, hgroups, parts, texts, isWritten, -, iff⟩ :=
      class_functions machine_plainlyNamed distinct h
    cases innermost.symm.trans hinner
    cases groups.symm.trans hgroups
    rcases parts with _ | ⟨hown, _ | ⟨hinherited, _ | ⟨himplemented, _ | _⟩⟩⟩
    obtain ⟨run, rfl, hrun⟩ := List.map_eq_singleton_iff.mp hown
    obtain ⟨stop, rfl, hstop⟩ := List.map_eq_singleton_iff.mp hinherited
    obtain ⟨reset, rfl, hreset⟩ := List.map_eq_singleton_iff.mp himplemented
    have isRun : run.signature = ⟨"run", []⟩ :=
      (isWritten run (by simp)).eq_of_signature (by rw [hrun]; rfl)
    have isStop : stop.signature = ⟨"stop", []⟩ :=
      (isWritten stop (by simp)).eq_of_signature (by rw [hstop]; rfl)
    have isReset : reset.signature = ⟨"reset", []⟩ :=
      (isWritten reset (by simp)).eq_of_signature (by rw [hreset]; rfl)
    rw [List.append_nil]
    refine ⟨machine_plainlyNamed, distinct, b, [run, stop, reset], rfl, texts, isWritten, ?_,
      iff.mpr ?_⟩
    · simp [hrun, hstop, hreset]
    · simp [isRun, isStop, isReset]

/-- A class and an interface that it realizes, each with an operation of the same name. -/
def runner : Design where
  model := ⟨#[.newNamed "C" none (.classifier { Classifier.new .classSort with operations := [2] }),
    .newNamed "I" none (.classifier { Classifier.new .interface with operations := [3] }),
    .newNamed "run" (some 0) (.operation []), .newNamed "run" (some 1) (.operation [])]⟩
  relationships := [.directed .realization (.str "") (some 0) (some 1)]

/-- The class is written with both functions, although no classifier has two that are alike. -/
theorem repeated_function : runner.model.PlainlyNamed ∧
    (∀ id, (runner.model.operationsOf id).Pairwise fun o o' => ¬ Alike runner.model o o') ∧
    (script runner.relationships .standard .classForm 0).answerIn runner.model = .ok
      [.line "public class C implements I \x7b", .line "", .indent,
        .line "/**", .line " * Default constructor", .line " */",
        .line "public construct() \x7b", .line "\x7d", .line "",
        .line "/**", .line " * ", .line " */", .line "public function run() \x7b", .indent,
        .line "// TODO implement here", .outdent, .line "\x7d", .line "",
        .line "/**", .line " * ", .line " */", .line "public function run() \x7b", .indent,
        .line "// TODO implement here", .outdent, .line "\x7d", .line "",
        .outdent, .line "\x7d"] ∧
    stubGroups runner.relationships runner.model runner.model .classForm 0 = .ok [[], [3]] ∧
    Member.signature runner.model (runner.model.get 2) = .ok ⟨"run", []⟩ ∧
    Member.signature runner.model (runner.model.get 3) = .ok ⟨"run", []⟩ := by
  refine ⟨?_, fun id => ?_, by rfl, by rfl, by rfl, by rfl⟩
  · refine Model.plainlyNamed_of_texts fun e he => ?_
    simp only [runner, Array.mem_def, List.mem_cons, List.not_mem_nil, or_false] at he
    rcases he with rfl | rfl | rfl | rfl <;> exact ⟨_, rfl⟩
  · match id with
    | 0 | 1 => exact List.pairwise_singleton ..
    | 2 | 3 | _ + 4 => exact .nil

end Declaration

end GosuForge
