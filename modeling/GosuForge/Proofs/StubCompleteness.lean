import GosuForge.Proofs.ClassFunctions
import GosuForge.Proofs.Path
import Mathlib.Data.List.Infix
import Mathlib.Logic.Relation

/-!
# Functions for inherited operations

A class that is not abstract has functions with bodies for what it inherits: those of the
interfaces that it realizes stand in the class, those for abstract operations of superclasses in the
class or in a class above it.

* `Declaration.FirstSuper`, `Declaration.Above`: the classes that a class is written to extend;
* `Declaration.HasBody`: a class has a function with a body for an operation;
* `Declaration.inherited_functions`: which operations have one;
* `Declaration.unimplemented_operation`: interfaces above an interface are not looked at.
-/

namespace GosuForge

open Inspection

namespace Modifier

theorem isAbstract_eq (e : Element) : isAbstract e = e.flags.isAbstract := by
  have visible : ¬ (ofVisibility e).contains abstract := by
    rw [ofVisibility]
    split <;> simp
  cases h : e.flags.isAbstract <;> simp_all [isAbstract, ofElement]

theorem mem_ofElement (e : Element) : abstract ∈ ofElement e ↔ e.flags.isAbstract = true := by
  rw [← isAbstract_eq, isAbstract, List.contains_iff_mem]

theorem anyAbstract_eq_ok {m : Model} {ids : List ElementId} {found : Bool}
    (h : anyAbstract m ids = .ok found) :
    found = true ↔ ∃ id ∈ ids, (m.get id).flags.isAbstract = true := by
  induction ids with
  | nil =>
    cases h
    simp
  | cons id rest ih =>
    obtain ⟨e, he, h⟩ := Outcome.bind_eq_ok.mp h
    obtain rfl := Model.read_eq_ok he
    rw [List.exists_mem_cons_iff]
    split at h
    · rename_i abstract
      cases h
      exact iff_of_true rfl (.inl abstract)
    · rename_i concrete
      rw [ih h, or_iff_right concrete]

/-- A classifier is declared abstract if it is abstract or has an abstract operation. -/
theorem mem_ofClassifier {m : Model} {id : ElementId} {modifiers : List Modifier}
    (h : ofClassifier m (m.get id) = .ok modifiers) :
    abstract ∈ modifiers ↔ (m.get id).flags.isAbstract = true ∨
      ∃ o ∈ m.operationsOf id, (m.get o).flags.isAbstract = true := by
  rw [ofClassifier] at h
  split at h
  · rename_i own
    cases h
    rw [isAbstract_eq] at own
    exact iff_of_true ((mem_ofElement _).mpr own) (.inl own)
  · obtain ⟨ids, hids, h⟩ := Outcome.bind_eq_ok.mp h
    obtain ⟨found, hfound, shown⟩ := Outcome.bind_eq_ok.mp h
    obtain rfl : m.operationsOf id = ids := Members.given_eq_ok hids
    cases shown
    rw [List.mem_append, mem_ofElement, ← anyAbstract_eq_ok hfound]
    cases found <;> simp

end Modifier

namespace Declaration

variable {r : Repository} {g : GosuSettings} {m : Model} {c d : ElementId}

/-- The class that a class is written to extend. -/
def FirstSuper (r : Repository) (m : Model) (c d : ElementId) : Prop :=
  ∃ rest, r.superClasses m c = .ok (some d :: rest)

/-- A class, the class that it is written to extend, and so on; this may come back to the class. -/
def Above (r : Repository) (m : Model) : ElementId → ElementId → Prop :=
  Relation.ReflTransGen (FirstSuper r m)

/-- The modifiers on the declaration line are without the word for abstract classes. -/
def Concrete (m : Model) (c : ElementId) : Prop :=
  ∃ modifiers, Modifier.ofClassifier m (m.get c) = .ok modifiers ∧ Modifier.abstract ∉ modifiers

/-- A class is written with a function with a body for an operation. -/
def HasBody (r : Repository) (g : GosuSettings) (m : Model) (c o : ElementId) : Prop :=
  ∃ before f after signature,
    (script r g .classForm c).answerIn m = .ok (before ++ f ++ after) ∧
    Member.signature m (m.get o) = .ok signature ∧ Member.IsFunction g (m.get o) signature true f

theorem mem_spaced {f : Script} {fs : List Script} (h : f ∈ fs) :
    ∃ before after, spaced fs = before ++ f ++ after := by
  obtain ⟨fs', fs'', rfl⟩ := List.mem_iff_append.mp h
  refine ⟨spaced fs', .line "" :: spaced fs'', ?_⟩
  rw [spaced_append, spaced, List.append_assoc]

/-- What a class is written to implement has a body. -/
theorem hasBody_of_mem_stubs (plain : m.PlainlyNamed) {s : Script}
    (h : (script r g .classForm c).answerIn m = .ok s) :
    ∃ stubs, stubGroups r m m .classForm c = .ok stubs ∧
      ∀ o ∈ stubs.flatten, (m.get o).isNamed = true → HasBody r g m c o := by
  obtain ⟨b, inner, rfl, -, hgroups⟩ := class_body plain h
  refine ⟨b.groups, hgroups, fun o ho named => ?_⟩
  obtain ⟨f, hf, written⟩ := Outcome.exists_of_forall₂ b.stubs_written o ho
  obtain ⟨signature, hsignature, function⟩ := written.exists_signature plain named
  have mem : f ∈ b.attributes ++ b.ends ++ b.functions :=
    List.mem_append_right _ (List.mem_append_right _ hf)
  obtain ⟨before, after, he⟩ := mem_spaced mem
  refine ⟨Documentation.block g b.doc ++ [.line (openingLine b.modifiers .classForm b.name b.related),
    .line "", .indent] ++ b.constructor ++ before, f, after ++ inner ++ close, signature, ?_,
    hsignature, function⟩
  rw [h, Body.script, he]
  simp only [List.append_assoc]

/-- A class that is not abstract has no abstract operation of its own. -/
theorem Concrete.not_isAbstract (h : Concrete m c) {o : ElementId} (ho : o ∈ m.operationsOf c) :
    Modifier.isAbstract (m.get o) = false := by
  obtain ⟨modifiers, hm, concrete⟩ := h
  rw [Modifier.isAbstract_eq, Bool.eq_false_iff]
  exact fun abstract => concrete ((Modifier.mem_ofClassifier hm).mpr (.inr ⟨o, ho, abstract⟩))

/-- A class has a body for each operation of an interface that it realizes. -/
theorem hasBody_of_interface (plain : m.PlainlyNamed) {s : Script}
    (h : (script r g .classForm c).answerIn m = .ok s) {interfaces : List (Option ElementId)}
    (hi : r.superInterfaces m c = .ok interfaces) {i o : ElementId} (mem : some i ∈ interfaces)
    (ho : o ∈ m.operationsOf i) (named : (m.get o).isNamed = true) : HasBody r g m c o := by
  obtain ⟨stubs, hgroups, body⟩ := hasBody_of_mem_stubs plain h
  obtain ⟨_, inherited, interfaces', implemented, -, -, hi', himplemented, rfl⟩ :=
    stubGroups_eq_ok hgroups
  cases hi.symm.trans hi'
  obtain ⟨ids, hids, he⟩ := Outcome.exists_of_mapM himplemented _ mem
  refine body o (List.mem_flatten.mpr ⟨ids, List.mem_cons_of_mem _ hids, ?_⟩) named
  rwa [← operationsOf_eq_ok he]

/-- A class has a body for each abstract operation of the class that it extends. -/
theorem hasBody_of_firstSuper (plain : m.PlainlyNamed) {s : Script}
    (h : (script r g .classForm c).answerIn m = .ok s) (extended : FirstSuper r m c d)
    {o : ElementId} (ho : o ∈ m.operationsOf d) (named : (m.get o).isNamed = true)
    (abstract : Modifier.isAbstract (m.get o) = true) : HasBody r g m c o := by
  obtain ⟨stubs, hgroups, body⟩ := hasBody_of_mem_stubs plain h
  obtain ⟨superClasses, inherited, _, implemented, hs, hinherited, -, -, rfl⟩ :=
    stubGroups_eq_ok hgroups
  obtain ⟨rest, hs'⟩ := extended
  cases hs.symm.trans hs'
  refine body o ?_ named
  rw [List.flatten_cons]
  refine List.mem_append_left _ (List.mem_filter.mpr ⟨?_, abstract⟩)
  rwa [← operationsOf_eq_ok hinherited]

/-- Where the classes above a class that is not abstract are written, every operation of an
interface that it realizes has a body in it, and every abstract operation of a class above it has a
body in it or in a class above it. -/
theorem inherited_functions (plain : m.PlainlyNamed) (concrete : Concrete m c)
    (written : ∀ d, Above r m c d → ∃ s, (script r g .classForm d).answerIn m = .ok s) :
    (∀ interfaces i, r.superInterfaces m c = .ok interfaces → some i ∈ interfaces →
      ∀ o ∈ m.operationsOf i, (m.get o).isNamed = true → HasBody r g m c o) ∧
    ∀ d, Above r m c d → ∀ o ∈ m.operationsOf d, (m.get o).isNamed = true →
      Modifier.isAbstract (m.get o) = true → ∃ e, Above r m c e ∧ HasBody r g m e o := by
  constructor
  · intro interfaces i hi mem o ho named
    obtain ⟨s, hs⟩ := written c .refl
    exact hasBody_of_interface plain hs hi mem ho named
  · intro d above o ho named abstract
    -- The class before the last one on the way has the body.
    rcases Relation.ReflTransGen.cases_tail above with rfl | ⟨e, below, extended⟩
    · rw [concrete.not_isAbstract ho] at abstract
      cases abstract
    · obtain ⟨s, hs⟩ := written e below
      exact ⟨e, below, hasBody_of_firstSuper plain hs extended ho named abstract⟩

/-- Nothing is above a class that extends nothing. -/
theorem Above.eq_of_none (h : Above r m c d) (none : r.superClasses m c = .ok []) : d = c := by
  rcases Relation.ReflTransGen.cases_head h with rfl | ⟨_, ⟨_, he⟩, -⟩
  · rfl
  · cases none.symm.trans he

theorem above_machine {d : ElementId} (h : Above machine.relationships machine.model 0 d) :
    d = 0 ∨ d = 1 := by
  rcases Relation.ReflTransGen.cases_head h with rfl | ⟨e, ⟨rest, he⟩, above⟩
  · exact .inl rfl
  · have extended : machine.relationships.superClasses machine.model 0 = .ok [some 1] := by rfl
    cases extended.symm.trans he
    exact .inr (Above.eq_of_none above (by rfl))

/-- The class has bodies for the operation of its interface and for the abstract one of its
superclass. -/
theorem inherited_functions_machine : machine.model.PlainlyNamed ∧ Concrete machine.model 0 ∧
    (∀ d, Above machine.relationships machine.model 0 d →
      ∃ s, (script machine.relationships .standard .classForm d).answerIn machine.model = .ok s) ∧
    HasBody machine.relationships .standard machine.model 0 5 ∧
    ∃ e, Above machine.relationships machine.model 0 e ∧
      HasBody machine.relationships .standard machine.model e 4 := by
  have concrete : Concrete machine.model 0 := ⟨[.visible .publicAccess], by rfl, by decide⟩
  have written (d : ElementId) (h : Above machine.relationships machine.model 0 d) :
      ∃ s, (script machine.relationships .standard .classForm d).answerIn machine.model =
        .ok s := by
    have ends : ∀ d ∈ [0, 1], ((script machine.relationships .standard .classForm d).answerIn
        machine.model).toOption.isSome = true := by
      decide +kernel
    have := ends d (by rcases above_machine h with rfl | rfl <;> decide)
    cases h : (script machine.relationships .standard .classForm d).answerIn machine.model with
    | error fault =>
      rw [h] at this
      cases this
    | ok s => exact ⟨s, rfl⟩
  obtain ⟨implemented, inherited⟩ := inherited_functions machine_plainlyNamed concrete written
  refine ⟨machine_plainlyNamed, concrete, written, ?_, ?_⟩
  · exact implemented [some 2] 2 (by rfl) (by decide) 5 (by decide) (by decide)
  · exact inherited 1 (.single ⟨[], by rfl⟩) 4 (by decide) (by decide) (by decide)

/-! ## Interfaces above an interface -/

def mentions (text : String) : Move → Bool
  | .line line => decide (text.toList <:+: line.toList)
  | .indent | .outdent => false

/-- The name of a function and the parenthesis after it stand in one of its lines. -/
theorem mentions_of_isFunction {e : Element} {signature : Signature} {withBody : Bool} {f : Script}
    (h : Member.IsFunction g e signature withBody f) :
    ∃ move ∈ f, mentions (signature.name ++ "(") move = true := by
  obtain ⟨doc, parameters, result, body, -, -, rfl⟩ := h
  refine ⟨_, List.mem_append_left _ (List.mem_append_right _ (List.mem_singleton_self _)), ?_⟩
  rw [mentions, decide_eq_true_iff]
  have name : (signature.name ++ "(").toList <+:
      (signature.name ++ "(" ++ Text.join ", " parameters ++ ")").toList := by
    simp only [String.toList_append, List.append_assoc]
    exact List.prefix_append_right_inj _ |>.mpr (List.prefix_append _ _)
  have word : signature.name ++ "(" ++ Text.join ", " parameters ++ ")" ∈
      Modifier.words (Modifier.ofMethod e !withBody) ++
        ["function", signature.name ++ "(" ++ Text.join ", " parameters ++ ")"] ++
          result.elim [] fun type => [":", type] :=
    List.mem_append_left _ (List.mem_append_right _ (List.mem_cons_of_mem _ List.mem_cons_self))
  refine (name.isInfix.trans (Text.infix_join " " word)).trans ?_
  rw [String.toList_append]
  exact (List.prefix_append _ _).isInfix

/-- A class that realizes an interface, which extends one with an operation. -/
def brake : Design where
  model := ⟨#[.newNamed "C" none (.classifier (Classifier.new .classSort)),
    .newNamed "I" none (.classifier (Classifier.new .interface)),
    .newNamed "J" none (.classifier { Classifier.new .interface with operations := [3] }),
    .newNamed "stop" (some 2) (.operation [])]⟩
  relationships := [.directed .realization (.str "") (some 0) (some 1),
    .directed .generalization (.str "") (some 1) (some 2)]

/-- Neither the class nor one above it has a body for the operation. -/
theorem unimplemented_operation : brake.model.PlainlyNamed ∧ Concrete brake.model 0 ∧
    (∀ d, Above brake.relationships brake.model 0 d →
      ∃ s, (script brake.relationships .standard .classForm d).answerIn brake.model = .ok s) ∧
    brake.relationships.superInterfaces brake.model 0 = .ok [some 1] ∧
    brake.relationships.superClasses brake.model 1 = .ok [some 2] ∧
    brake.model.operationsOf 2 = [3] ∧ (brake.model.get 3).isNamed = true ∧
    ∀ e, Above brake.relationships brake.model 0 e →
      ¬ HasBody brake.relationships .standard brake.model e 3 := by
  obtain ⟨s, written, silent⟩ : ∃ s,
      (script brake.relationships .standard .classForm 0).answerIn brake.model = .ok s ∧
      ∀ move ∈ s, mentions ("stop" ++ "(") move = false :=
    ⟨[.line "public class C implements I \x7b", .line "", .indent,
        .line "/**", .line " * Default constructor", .line " */",
        .line "public construct() \x7b", .line "\x7d", .line "", .outdent, .line "\x7d"],
      by rfl, by decide +kernel⟩
  have above {e : ElementId} (h : Above brake.relationships brake.model 0 e) : e = 0 :=
    h.eq_of_none (by rfl)
  refine ⟨?_, ⟨[.visible .publicAccess], by rfl, by decide⟩, fun d h => ?_, by rfl, by rfl, by rfl,
    by rfl, fun e h => ?_⟩
  · refine Model.plainlyNamed_of_texts fun e he => ?_
    simp only [brake, Array.mem_def, List.mem_cons, List.not_mem_nil, or_false] at he
    rcases he with rfl | rfl | rfl | rfl <;> exact ⟨_, rfl⟩
  · rw [above h]
    exact ⟨s, written⟩
  · rw [above h]
    rintro ⟨before, f, after, signature, hs, hsignature, function⟩
    have stop : Member.signature brake.model (brake.model.get 3) = .ok ⟨"stop", []⟩ := by rfl
    cases stop.symm.trans hsignature
    cases written.symm.trans hs
    obtain ⟨move, mem, named⟩ := mentions_of_isFunction function
    have silent := silent move (List.mem_append_left _ (List.mem_append_right _ mem))
    exact Bool.false_ne_true (silent.symm.trans named)

end Declaration

end GosuForge
