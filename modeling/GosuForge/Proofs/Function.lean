import GosuForge.Proofs.Declaration
import GosuForge.Proofs.Reference

/-!
# Functions

What is written for an operation is a function of its name and its parameters, with a body or
without one.

* `Member.signature`: what tells the functions of a class apart;
* `Member.functionLine`, `Member.IsBody`, `Member.IsFunction`: how a function is written;
* `Member.isFunction_of_method`: what is written for an operation.
-/

namespace GosuForge

open Inspection

namespace Inspection

/-- Two steps that answer in a model that stays as it is. -/
theorem Keeps.answerIn_bind_eq_ok {α β : Type} {i : Inspection α} {f : α → Inspection β} {m : Model}
    {y : β} (h : Keeps i) (plain : m.PlainlyNamed) :
    (i >>= f).answerIn m = .ok y ↔ ∃ x, i.answerIn m = .ok x ∧ (f x).answerIn m = .ok y := by
  rw [h.answerIn_bind plain, Outcome.bind_eq_ok]

/-- A first step that does not look at the model. -/
theorem answerIn_lift_bind_eq_ok {α β : Type} {x : Except Fault α} {f : α → Inspection β}
    {m : Model} {y : β} :
    ((liftM x : Inspection α) >>= f).answerIn m = .ok y ↔
      ∃ a, x = .ok a ∧ (f a).answerIn m = .ok y := by
  cases x with
  | error fault => simp [answerIn, runIn_bind]
  | ok a => simp [answerIn, runIn_bind]

end Inspection

/-- Only texts are joined. -/
theorem Model.joinNames_eq_ok {sep text : String} {names : List Value}
    (h : joinNames sep names = .ok text) :
    ∃ texts, names = texts.map .str ∧ text = Text.join sep texts := by
  rw [joinNames, Outcome.bind_eq_ok] at h
  obtain ⟨texts, ht, h⟩ := h
  cases h
  refine ⟨texts, ?_, rfl⟩
  rw [Outcome.mapM_eq_ok] at ht
  rw [← List.forall₂_eq_eq_eq, List.forall₂_map_right_iff]
  refine ht.imp fun v s hv => ?_
  split at hv
  · cases hv
    rfl
  · cases hv

/-- What tells functions of one class apart: the name, and the types of the parameters. -/
structure Signature where
  name : String
  types : List String
  deriving DecidableEq, Repr

namespace Member

/-- The signature of an operation, with the type expressions of what is written between the
parentheses. -/
def signature (m : Model) (e : Element) : Except Fault Signature := do
  let parameters ← parametersOf m e
  let types ← (inputs parameters).mapM fun p => (TypeStyle.default.expression p).answerIn m
  .ok ⟨m.display e.name, types.map m.display⟩

/-- The line of a function: its modifiers, its name with the parameters, and perhaps the type of its
result. -/
def functionLine (modifiers : List Modifier) (name : String) (parameters : List String)
    (result : Option String) : String :=
  Text.join " " (Modifier.words modifiers ++
    ["function", name ++ "(" ++ Text.join ", " parameters ++ ")"] ++
      result.elim [] fun type => [":", type])

/-- The body of a function is the statement for stubs, and perhaps a line that returns a value. -/
def IsBody (g : GosuSettings) (body : Script) : Prop :=
  ∃ (stub : Move) (value : Option String), stubLine g.stub = .ok stub ∧
    body = stub :: (value.map fun v => Move.line ("return " ++ v)).toList

/-- The function of an operation is its comment, its line and, if it has one, its body in braces. -/
def IsFunction (g : GosuSettings) (e : Element) (s : Signature) (withBody : Bool) (f : Script) :
    Prop :=
  ∃ (doc : String) (parameters : List String) (result : Option String) (body : Script),
    List.Forall₂ (fun text type => ∃ name, text = name ++ ":" ++ type) parameters s.types ∧
    (withBody = true → IsBody g body) ∧
    f = Documentation.block g (.str doc) ++
      [.line (functionLine (Modifier.ofMethod e !withBody) s.name parameters result ++
        if withBody then " \x7b" else "")] ++
      if withBody then [.indent] ++ body ++ [.outdent, .line "\x7d"] else []

variable {m : Model}

theorem answerIn_parameterText (plain : m.PlainlyNamed) {p : Element} {text : String} :
    (parameterText p).answerIn m = .ok text ↔
      ∃ type, (TypeStyle.default.expression p).answerIn m = .ok type ∧
        text = m.display p.name ++ ":" ++ m.display type := by
  rw [parameterText, answerIn_get_bind]
  dsimp only
  rw [(TypeStyle.expression_keeps p).answerIn_bind_eq_ok plain]
  refine exists_congr fun type => and_congr Iff.rfl ?_
  rw [answerIn_get_bind, answerIn_pure]
  constructor
  · intro h
    cases h
    rfl
  · rintro rfl
    rfl

/-- The words of a line of a function. -/
theorem phrase_function {modifiers : List Modifier} {name line : String} {parameters : List String}
    {type : Option Value}
    (h : phrase (modifiers.map (fun word => .str word.word) ++
      [.str "function", .str (name ++ "(" ++ Text.join ", " parameters ++ ")")] ++
        (match type with
        | some type => [.str ":", type]
        | none => [])) = .ok line) :
    ∃ result, line = functionLine modifiers name parameters result := by
  obtain ⟨texts, ht, rfl⟩ := Model.joinNames_eq_ok h
  have injective : Function.Injective Value.str := fun s t h => by injection h
  obtain ⟨front, back, rfl, hfront, hback⟩ := List.map_eq_append_iff.mp ht.symm
  have words : Modifier.words modifiers ++
      ["function", name ++ "(" ++ Text.join ", " parameters ++ ")"] = front := by
    refine List.map_injective_iff.mpr injective ?_
    rw [hfront]
    simp [Modifier.words]
  subst words
  cases type with
  | none =>
    refine ⟨none, ?_⟩
    rw [List.map_eq_nil_iff.mp hback]
    rfl
  | some type =>
    obtain ⟨colon, others, rfl, hcolon, hothers⟩ := List.map_eq_cons_iff.mp hback
    obtain ⟨text, rfl, -⟩ := List.map_eq_singleton_iff.mp hothers
    exact ⟨some text, by rw [injective hcolon]; rfl⟩

theorem exists_returned {type : Option Value} {lines : Script}
    (h : returnLines m type = .ok lines) :
    ∃ value : Option String, lines = (value.map fun v => Move.line ("return " ++ v)).toList := by
  cases type with
  | none =>
    cases h
    exact ⟨none, rfl⟩
  | some type =>
    obtain ⟨value, -, h⟩ := Outcome.bind_eq_ok.mp h
    cases value with
    | none =>
      cases h
      exact ⟨none, rfl⟩
    | some v =>
      cases h
      exact ⟨some v.display, rfl⟩

/-- The texts of parameters end with their types. -/
theorem types_of_texts {ps : List Element} {texts : List String}
    (h : (ps.mapM parameterText).answerIn m = .ok texts) :
    ∃ types, List.Forall₂ (fun text type => ∃ name, text = name ++ ":" ++ type) texts types ∧
      (m.PlainlyNamed → ∃ values, types = values.map m.display ∧
        ps.mapM (fun p => (TypeStyle.default.expression p).answerIn m) = .ok values) := by
  by_cases plain : m.PlainlyNamed
  · have keeps := fun p (_ : p ∈ ps) => parameterText_keeps p
    rw [Keeps.answerIn_mapM plain _ keeps, Outcome.mapM_eq_ok] at h
    suffices ∃ values, List.Forall₂ (fun text type => ∃ name, text = name ++ ":" ++ type) texts
        (values.map m.display) ∧
        ps.mapM (fun p => (TypeStyle.default.expression p).answerIn m) = .ok values by
      obtain ⟨values, typed, hvalues⟩ := this
      exact ⟨_, typed, fun _ => ⟨values, rfl, hvalues⟩⟩
    induction h with
    | nil => exact ⟨[], .nil, rfl⟩
    | @cons p text ps texts hp _ ih =>
      obtain ⟨values, typed, hvalues⟩ := ih fun p _ => parameterText_keeps p
      obtain ⟨type, ht, rfl⟩ := (answerIn_parameterText plain).mp hp
      refine ⟨type :: values, .cons ⟨_, rfl⟩ typed, ?_⟩
      rw [List.mapM_cons, ht, hvalues]
      rfl
  · have typed (p : Element) :
        Yields (fun text => ∃ type name, text = name ++ ":" ++ type) (parameterText p) :=
      .after fun _ => .after fun _ => .after fun _ => .pure ⟨_, _, rfl⟩
    obtain ⟨types, ht⟩ := Outcome.exists_forall₂ ((Yields.mapM ps fun p _ => typed p).holds h)
    exact ⟨types, ht, fun h => absurd h plain⟩

theorem result_keeps (parameters : List Element) :
    Keeps ((result? parameters).mapM TypeStyle.default.expression) := by
  cases result? parameters with
  | none => exact .pure _
  | some p => exact .bind (TypeStyle.expression_keeps p) fun _ => .pure _

/-- What is written for a named operation is a function. Where no element is named by a list, it is
one of the operation's signature. -/
theorem isFunction_of_method {g : GosuSettings} {e : Element} {withoutBody withoutParameters : Bool}
    {f : Script} (named : e.isNamed = true)
    (h : (method g e withoutBody withoutParameters).answerIn m = .ok f) :
    ∃ s, IsFunction g e s (!withoutBody) f ∧
      (m.PlainlyNamed → withoutParameters = false → signature m e = .ok s) := by
  rw [method, named] at h
  simp only [Bool.not_true, Bool.false_eq_true, if_false] at h
  rw [answerIn_get_bind] at h
  obtain ⟨parameters, hparameters, h⟩ := answerIn_lift_bind_eq_ok.mp h
  obtain ⟨doc, -, h⟩ := answerIn_lift_bind_eq_ok.mp h
  obtain ⟨texts, between, htexts, grown, h⟩ :=
    (Keeps.mapM _ fun p _ => parameterText_keeps p).exists_grown h
  rw [answerIn_get_bind] at h
  obtain ⟨type, _, -, h⟩ := answerIn_bind_eq_ok h
  obtain ⟨line, hline, h⟩ := answerIn_lift_bind_eq_ok.mp h
  obtain ⟨result, rfl⟩ := phrase_function hline
  obtain ⟨types, typed, shown⟩ := types_of_texts htexts
  refine ⟨⟨between.display e.name, types⟩, ?_, fun plain all => ?_⟩
  · cases withoutBody with
    | true =>
      cases h
      refine ⟨doc, texts, result, [], typed, fun withBody => ?_, by simp⟩
      exact absurd withBody Bool.false_ne_true
    | false =>
      simp only [Bool.false_eq_true, if_false] at h
      obtain ⟨stub, hstub, h⟩ := answerIn_lift_bind_eq_ok.mp h
      obtain ⟨returned, hreturned, h⟩ := answerIn_lift_bind_eq_ok.mp h
      obtain ⟨value, rfl⟩ := exists_returned hreturned
      cases h
      refine ⟨doc, texts, result, _, typed, fun _ => ⟨stub, value, hstub, rfl⟩, ?_⟩
      simp
  · obtain ⟨values, rfl, hvalues⟩ := shown plain
    rw [all] at hvalues
    rw [grown.eq_of_plainlyNamed plain, signature]
    exact Outcome.bind_eq_ok.mpr ⟨parameters, hparameters,
      Outcome.bind_eq_ok.mpr ⟨values, hvalues, rfl⟩⟩

/-- What is written for an operation: its function if it has a name, else nothing. -/
def IsFunctionOf (g : GosuSettings) (e : Element) (withBody : Bool) (f : Script) : Prop :=
  (e.isNamed = true → ∃ s, IsFunction g e s withBody f) ∧ (e.isNamed = false → f = [])

theorem isFunctionOf_of_method {g : GosuSettings} {e : Element}
    {withoutBody withoutParameters : Bool} {f : Script}
    (h : (method g e withoutBody withoutParameters).answerIn m = .ok f) :
    IsFunctionOf g e (!withoutBody) f := by
  refine ⟨fun named => ?_, fun unnamed => ?_⟩
  · obtain ⟨s, function, -⟩ := isFunction_of_method named h
    exact ⟨s, function⟩
  · rw [method, unnamed] at h
    cases h
    rfl

end Member

end GosuForge
