import GosuForge.Proofs.DeclarationBody
import GosuForge.Proofs.StubCompleteness

/-!
# Functions without bodies

A class or an enhancement has a function without a body for each of its abstract operations. A
class with one is declared abstract, an enhancement only if it is abstract itself.

* `Member.Bodiless`: a function that is no more than its line;
* `Declaration.OwnFunctions`: the declaration line of an element, and the functions of its
  operations;
* `Declaration.abstract_of_bodiless_iff`: whether functions without bodies stand in abstract
  declarations only;
* `Declaration.enhancement_not_abstract`: an enhancement where one does not.
-/

namespace GosuForge

open Inspection

namespace Member

variable {g : GosuSettings}

/-- A function that is no more than its line. -/
def Bodiless (g : GosuSettings) (f : Script) : Prop := ∃ e s, IsFunction g e s false f

theorem not_bodiless_nil : ¬ Bodiless g [] := by
  rintro ⟨e, s, doc, parameters, result, body, -, -, h⟩
  simp at h

/-- A function with a body ends with a brace. -/
theorem not_bodiless_of_body {e : Element} {s : Signature} {f : Script}
    (h : IsFunction g e s true f) : ¬ Bodiless g f := by
  rintro ⟨e', s', doc', parameters', result', body', -, -, h'⟩
  obtain ⟨doc, parameters, result, body, -, -, h⟩ := h
  have last : f.getLast? = some (.line "\x7d") := by
    rw [h]
    simp [List.getLast?_append, List.getLast?_cons]
  have last' : f.getLast? = some (.line (functionLine (Modifier.ofMethod e' true) s'.name parameters'
      result')) := by
    rw [h']
    simp
  have same := Move.line.inj (Option.some.inj (last.symm.trans last'))
  have word : "function" ∈ Modifier.words (Modifier.ofMethod e' true) ++ ["function", s'.name ++ "(" ++
      Text.join ", " parameters' ++ ")"] ++ result'.elim [] fun type => [":", type] := by simp
  have inside := (Text.infix_join " " word).subset (by decide : 'f' ∈ "function".toList)
  rw [← functionLine, ← same] at inside
  exact absurd inside (by decide)

/-- Only a named operation is written, and without a body if none is asked for. -/
theorem bodiless_iff {e : Element} {withBody : Bool} {f : Script}
    (h : IsFunctionOf g e withBody f) : Bodiless g f ↔ e.isNamed = true ∧ withBody = false := by
  cases named : e.isNamed with
  | false => simp [h.2 named, not_bodiless_nil]
  | true =>
    obtain ⟨s, function⟩ := h.1 named
    cases withBody with
    | false => exact iff_of_true ⟨e, s, function⟩ ⟨rfl, rfl⟩
    | true => exact iff_of_false (not_bodiless_of_body function) (by simp)

end Member

/-! ## Functions of an element's own operations -/

namespace Declaration

variable {r : Repository} {g : GosuSettings} {m : Model} {id : ElementId} {s : Script}

/-- What is written for an own operation of a class or an enhancement: no body if it is abstract. -/
def WrittenOperation (g : GosuSettings) (m : Model) (o : ElementId) (f : Script) : Prop :=
  Member.WrittenFunction g m (!Modifier.isAbstract (m.get o)) true o f

/-- The line that an element's declaration opens with, and the functions of its own operations. -/
structure OwnFunctions (g : GosuSettings) (m : Model) (form : DeclarationForm) (id : ElementId)
    (s : Script) where
  doc : Value
  modifiers : List Modifier
  name : String
  related : List String
  before : Script
  functions : List Script
  after : Script
  name_eq : (m.get id).name = .str name
  script_eq : s = Documentation.block g doc ++
    .line (openingLine modifiers form name related) :: (before ++ spaced functions ++ after)
  written : List.Forall₂ (WrittenOperation g m) (m.operationsOf id) functions

/-- Whether an element of a form is to be declared abstract. -/
def AbstractFor (m : Model) (form : DeclarationForm) (id : ElementId) : Prop :=
  (m.get id).flags.isAbstract = true ∨
    form = .classForm ∧ ∃ o ∈ m.operationsOf id, (m.get o).flags.isAbstract = true

theorem exists_ownFunctions {form : DeclarationForm} (hf : form = .classForm ∨ form = .enhancement)
    {nested : Inspection Script} (h : (scriptFor r g form id nested).answerIn m = .ok s) :
    ∃ w : OwnFunctions g m form id s, .abstract ∈ w.modifiers ↔ AbstractFor m form id := by
  have around : form ≠ .enumeration := by rcases hf with rfl | rfl <;> nofun
  obtain ⟨b, inner, _, -, -, rfl⟩ := exists_body around h
  have own : List.Forall₂ (WrittenOperation g m) (m.operationsOf id) b.own := by
    rcases hf with rfl | rfl <;> exact b.own_written
  refine ⟨⟨b.doc, b.modifiers, b.name, b.related, .line "" :: .indent ::
    (b.constructor ++ spaced (b.attributes ++ b.ends)), b.own, spaced b.stubs ++ inner ++ close,
    b.name_eq, ?_, own⟩, ?_⟩
  · simp [Body.script, Body.functions, spaced_append]
  · have modifiers := b.modifiers_eq
    rcases hf with rfl | rfl
    · refine (Modifier.mem_ofClassifier modifiers).trans ?_
      simp [AbstractFor]
    · change .abstract ∈ b.modifiers ↔ _
      rw [← Except.ok.inj modifiers, Modifier.mem_ofElement]
      simp [AbstractFor]

/-- A function is without a body if its operation is abstract. -/
theorem OwnFunctions.exists_bodiless_iff {form : DeclarationForm} (w : OwnFunctions g m form id s) :
    (∃ f ∈ w.functions, Member.Bodiless g f) ↔ ∃ o ∈ m.operationsOf id,
      (m.get o).isNamed = true ∧ (m.get o).flags.isAbstract = true := by
  have bodiless {o : ElementId} {f : Script} (h : WrittenOperation g m o f) :
      Member.Bodiless g f ↔ (m.get o).isNamed = true ∧ (m.get o).flags.isAbstract = true := by
    rw [Member.bodiless_iff h.isFunction, Bool.not_eq_false', Modifier.isAbstract_eq]
  have written := w.written
  generalize w.functions = fs, m.operationsOf id = ids at written
  induction written with
  | nil => simp
  | cons first _ ih =>
    rw [List.exists_mem_cons_iff, List.exists_mem_cons_iff]
    exact or_congr (bodiless first) ih

/-- **Functions without bodies stand in abstract declarations**, at the top and nested alike:
always in those of classes, and in that of an enhancement just if it is abstract itself or has no
abstract operation with a name. -/
theorem abstract_of_bodiless_iff {form : DeclarationForm}
    (hf : form = .classForm ∨ form = .enhancement) {nested : Inspection Script}
    (h : (scriptFor r g form id nested).answerIn m = .ok s) :
    ∃ w : OwnFunctions g m form id s,
      ((∃ f ∈ w.functions, Member.Bodiless g f) ↔ ∃ o ∈ m.operationsOf id,
        (m.get o).isNamed = true ∧ (m.get o).flags.isAbstract = true) ∧
      (.abstract ∈ w.modifiers ↔ AbstractFor m form id) ∧
      (((∃ f ∈ w.functions, Member.Bodiless g f) → .abstract ∈ w.modifiers) ↔
        form = .classForm ∨ (m.get id).flags.isAbstract = true ∨
          ∀ o ∈ m.operationsOf id, (m.get o).isNamed = true →
            (m.get o).flags.isAbstract = false) := by
  obtain ⟨w, declared⟩ := exists_ownFunctions hf h
  refine ⟨w, w.exists_bodiless_iff, declared, ?_⟩
  rw [w.exists_bodiless_iff, declared, AbstractFor]
  rcases hf with rfl | rfl
  · refine iff_of_true ?_ (.inl rfl)
    rintro ⟨o, ho, -, abstract⟩
    exact .inr ⟨rfl, o, ho, abstract⟩
  · by_cases own : (m.get id).flags.isAbstract = true
    · simp [own]
    · simp [own]

/-- An element with an operation that is abstract, of a stereotype. -/
def sketch (stereotype : Value) : Model :=
  ⟨#[.newNamed "E" none
      (.classifier { Classifier.new .classSort with operations := [1], stereotype }),
     { Element.newNamed "run" (some 0) (.operation []) with
        flags := { Flags.none with isAbstract := true } }]⟩

/-- The class is declared abstract. -/
theorem abstract_of_bodiless_sketch :
    ∃ s, ∃ w : OwnFunctions .standard (sketch .null) .classForm 0 s,
    (script [] .standard .classForm 0).answerIn (sketch .null) = .ok s ∧
    (∃ f ∈ w.functions, Member.Bodiless .standard f) ∧ .abstract ∈ w.modifiers := by
  obtain ⟨s, h⟩ : ∃ s, (script [] .standard .classForm 0).answerIn (sketch .null) = .ok s :=
    ⟨_, rfl⟩
  have written := h
  rw [script, answerIn_get_bind] at written
  obtain ⟨w, bodiless, -, agree⟩ := abstract_of_bodiless_iff (.inl rfl) written
  have found := bodiless.mpr ⟨1, by decide, by decide, by decide⟩
  exact ⟨s, w, h, found, agree.mpr (.inl rfl) found⟩

/-- The enhancement has a function without a body, but is not declared abstract. -/
theorem enhancement_not_abstract :
    (script [] .standard .enhancement 0).answerIn (sketch (.str "Enhancement")) = .ok
      [.line (openingLine [.visible .publicAccess] .enhancement "E" []), .line "", .indent,
        .line "/**", .line " * ", .line " */", .line "public abstract function run()", .line "",
        .outdent, .line "\x7d"] ∧
    Member.Bodiless .standard [.line "/**", .line " * ", .line " */",
      .line "public abstract function run()"] := by
  exact ⟨rfl, (sketch .null).get 1, ⟨"run", []⟩, "\n", [], none, [], .nil, nofun, by decide⟩

end Declaration

end GosuForge
