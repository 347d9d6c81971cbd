import GosuForge.Proofs.MemberEnds

/-!
# Functions of a declaration

A declaration has one function for each of its operations, and stubs for operations of what it extends
and realizes. While they are written, lists that elements are named by may grow.

* `Member.WrittenFunction`: what is written for an operation in a declaration;
* `DeclarationForm.givesBody`, `DeclarationForm.givesParameters`: how a form writes its own operations;
* `Declaration.stubGroups`: the operations that a form has stubs for, group by group;
* `Declaration.operations_written` and those after it: the functions stand one after the other;
* `Member.not_declaresVariable`: no function is written as a variable is.
-/

namespace GosuForge

open Inspection

/-- What is written for each of some items, from a model that lists may grow in. -/
theorem Inspection.mapM_grown {α β : Type} {m : Model} {f : α → Inspection β} {R : α → β → Prop}
    (keeps : ∀ x, Keeps (f x))
    (written : ∀ x before y, m.GrowsTo before → (f x).answerIn before = .ok y → R x y)
    {xs : List α} {before : Model} (grown : m.GrowsTo before) {ys : List β}
    (h : (xs.mapM f).answerIn before = .ok ys) : List.Forall₂ R xs ys := by
  induction xs generalizing before ys with
  | nil =>
    cases h
    exact .nil
  | cons x xs ih =>
    rw [List.mapM_cons] at h
    obtain ⟨y, between, hy, more, h⟩ := (keeps x).exists_grown h
    obtain ⟨ys', _, hys, h⟩ := answerIn_bind_eq_ok h
    cases h
    exact .cons (written x before y grown hy) (ih (grown.trans more) hys)

namespace Member

/-- What is written for an operation in a declaration, after lists may have grown. -/
structure WrittenFunction (g : GosuSettings) (m : Model) (withBody withParameters : Bool)
    (o : ElementId) (f : Script) : Prop where
  answered : ∃ before, m.GrowsTo before ∧
    (method g (m.get o) (!withBody) (!withParameters)).answerIn before = .ok f
  isFunction : IsFunctionOf g (m.get o) withBody f

theorem writtenFunction_of_method {g : GosuSettings} {m before : Model} {o : ElementId}
    {withBody withParameters : Bool} {f : Script} (grown : m.GrowsTo before)
    (h : (method g (m.get o) (!withBody) (!withParameters)).answerIn before = .ok f) :
    WrittenFunction g m withBody withParameters o f :=
  ⟨⟨before, grown, h⟩, by simpa using isFunctionOf_of_method h⟩

/-- Where no element is named by a list, a function has the signature of its operation. -/
theorem WrittenFunction.exists_signature {g : GosuSettings} {m : Model} {o : ElementId}
    {withBody : Bool} {f : Script} (h : WrittenFunction g m withBody true o f)
    (plain : m.PlainlyNamed) (named : (m.get o).isNamed = true) :
    ∃ s, signature m (m.get o) = .ok s ∧ IsFunction g (m.get o) s withBody f := by
  obtain ⟨before, grown, answered⟩ := h.answered
  obtain rfl := grown.eq_of_plainlyNamed plain
  obtain ⟨s, function, hs⟩ := isFunction_of_method named answered
  exact ⟨s, hs plain rfl, by simpa using function⟩

end Member

/-! ## Functions and variables -/

/-- The first word of a line and the others, where there are others. -/
theorem Text.join_cons_inj {word word' : String} {words words' : List String}
    (single : ' ' ∉ word.toList) (single' : ' ' ∉ word'.toList) (more : words ≠ [])
    (more' : words' ≠ []) (h : join " " (word :: words) = join " " (word' :: words')) :
    word = word' ∧ join " " words = join " " words' := by
  obtain ⟨next, rest, rfl⟩ := List.exists_cons_of_ne_nil more
  obtain ⟨next', rest', rfl⟩ := List.exists_cons_of_ne_nil more'
  have first {w : String} (hw : ' ' ∉ w.toList) (cs : List Char) :
      (w.toList ++ ' ' :: cs).takeWhile (· ≠ ' ') = w.toList := by
    have other : ∀ c ∈ w.toList, decide (c ≠ ' ') = true :=
      fun c hc => decide_eq_true fun e => hw (e ▸ hc)
    rw [List.takeWhile_append_of_pos other]
    simp
  have lists : word.toList ++ ' ' :: (join " " (next :: rest)).toList =
      word'.toList ++ ' ' :: (join " " (next' :: rest')).toList := by
    simpa [join] using congrArg String.toList h
  have same := congrArg (List.takeWhile (· ≠ ' ')) lists
  rw [first single, first single'] at same
  rw [same] at lists
  exact ⟨String.toList_inj.mp same,
    String.toList_inj.mp (List.cons.inj (List.append_cancel_left lists)).2⟩

namespace Modifier

theorem word_spec (modifier : Modifier) : ' ' ∉ modifier.word.toList ∧
    modifier.word ≠ "function" ∧ modifier.word ≠ "var" := by
  cases modifier with
  | visible v => cases v <;> decide
  | static | abstract | final => decide

/-- Behind its modifiers, the line of a function goes on with another word than that of a variable. -/
theorem join_words_ne (modifiers modifiers' : List Modifier) {rest rest' : List String}
    (more : rest ≠ []) (more' : rest' ≠ []) :
    Text.join " " (words modifiers ++ "function" :: rest) ≠
      Text.join " " (words modifiers' ++ "var" :: rest') := by
  have single : ' ' ∉ "function".toList := by decide
  have single' : ' ' ∉ "var".toList := by decide
  intro h
  induction modifiers generalizing modifiers' with
  | nil =>
    cases modifiers' with
    | nil => exact absurd (Text.join_cons_inj single single' more more' h).1 (by decide)
    | cons modifier' others' =>
      obtain ⟨single', different, -⟩ := modifier'.word_spec
      exact different (Text.join_cons_inj single single' more (by simp) h).1.symm
  | cons modifier others ih =>
    obtain ⟨single, -, different⟩ := modifier.word_spec
    cases modifiers' with
    | nil => exact different (Text.join_cons_inj single single' (by simp) more' h).1
    | cons modifier' others' =>
      obtain ⟨single', -⟩ := modifier'.word_spec
      exact ih others' (Text.join_cons_inj single single' (by simp) (by simp) h).2

end Modifier

namespace Member

/-- A comment and a line that declares a variable. -/
def DeclaresVariable (g : GosuSettings) (f : Script) : Prop :=
  ∃ e : Element, e.isNamed = true ∧ IsVariable g e f

/-- No function is written as a variable is: one ends with another line. -/
theorem not_declaresVariable {g : GosuSettings} {e : Element} {withBody : Bool} {f : Script}
    (h : IsFunctionOf g e withBody f) : ¬ DeclaresVariable g f := by
  rintro ⟨variable_, named_, isVariable⟩
  obtain ⟨name, type, after, -, hf⟩ := isVariable.1 named_
  have last : f.getLast? = some (.line (Text.join " "
      (Modifier.words (Modifier.ofElement variable_) ++
        "var" :: Naming.fieldName name :: ":" :: type :: after))) := by
    rw [hf]
    simp
  cases named : e.isNamed with
  | false =>
    rw [h.2 named] at last
    cases last
  | true =>
    obtain ⟨s, doc, parameters, result, body, -, -, e'⟩ := h.1 named
    cases withBody with
    | false =>
      have last' : f.getLast? = some (.line (functionLine (Modifier.ofMethod e true) s.name parameters
          result)) := by
        rw [e']
        simp
      have same := Move.line.inj (Option.some.inj (last'.symm.trans last))
      rw [functionLine, List.append_assoc] at same
      exact Modifier.join_words_ne _ _ (List.cons_ne_nil _ _) (List.cons_ne_nil _ _) same
    | true =>
      have last' : f.getLast? = some (.line "\x7d") := by
        rw [e']
        simp [List.getLast?_append, List.getLast?_cons]
      have same := Move.line.inj (Option.some.inj (last'.symm.trans last))
      have word : "var" ∈ Modifier.words (Modifier.ofElement variable_) ++
          "var" :: Naming.fieldName name :: ":" :: type :: after := by simp
      have inside := (Text.infix_join " " word).subset (by decide : 'v' ∈ "var".toList)
      rw [← same] at inside
      exact absurd inside (by decide)

end Member

namespace DeclarationForm

/-- Whether a declaration in the form has a body for one of its own operations. -/
def givesBody (form : DeclarationForm) (e : Element) : Bool :=
  match form with
  | classForm => !Modifier.isAbstract e
  | enhancement => !Modifier.isAbstract e
  | interface => false
  | enumeration => false
  | annotationForm => false

/-- Whether the functions of own operations are written with their parameters. -/
def givesParameters : DeclarationForm → Bool
  | annotationForm => false
  | _ => true

end DeclarationForm

namespace Declaration

/-- The abstract operations of the first superclass in a model, by the relationships in another. -/
def inheritedOperations (r : Repository) (m seen : Model) (id : ElementId) :
    Except Fault (List ElementId) := do
  let superClasses ← r.superClasses m id
  let ids ← operationsOf seen (superClasses.head?.getD none)
  .ok (ids.filter fun o => Modifier.isAbstract (seen.get o))

/-- The operations that a declaration has stubs for: in a class and an annotation the abstract ones
of the first superclass, in a class also those of each interface that it realizes. They are looked
for in the second model, which differs from the first one at most by lists that grew. -/
def stubGroups (r : Repository) (m seen : Model) (form : DeclarationForm) (id : ElementId) :
    Except Fault (List (List ElementId)) :=
  match form with
  | .classForm => do
    let inherited ← inheritedOperations r m seen id
    let interfaces ← r.superInterfaces m id
    let implemented ← interfaces.mapM (operationsOf seen)
    .ok (inherited :: implemented)
  | .annotationForm => do
    let inherited ← inheritedOperations r m seen id
    .ok [inherited]
  | _ => .ok []

/-- The functions of the stubs of a declaration. -/
abbrev WrittenStubs (g : GosuSettings) (m : Model) (ids : List ElementId) (fs : List Script) : Prop :=
  List.Forall₂ (Member.WrittenFunction g m true true) ids fs

section

variable {m before : Model} {g : GosuSettings} {id : ElementId} {s : Script}

/-- What is written for each of some elements is spaced. -/
theorem forEach_written {write : Element → Inspection Script} {R : ElementId → Script → Prop}
    (keeps : ∀ e, Keeps (write e))
    (written : ∀ o before f, m.GrowsTo before → (write (m.get o)).answerIn before = .ok f → R o f)
    (grown : m.GrowsTo before) {ids : List ElementId}
    (h : (forEach write ids).answerIn before = .ok s) :
    ∃ fs, s = spaced fs ∧ List.Forall₂ R ids fs := by
  obtain ⟨fs, _, hfs, h⟩ := answerIn_bind_eq_ok h
  cases h
  refine ⟨fs, rfl, mapM_grown (fun o => ?_) (fun o before f grown hf => ?_) grown hfs⟩
  · exact .bind .get fun _ => .bind (.lift _) fun e => keeps e
  · rw [answerIn_get_bind] at hf
    obtain ⟨e, he, hf⟩ := answerIn_lift_bind_eq_ok.mp hf
    obtain rfl := grown.read_eq he
    exact written o before f grown hf

/-- The own operations of a class or an enhancement: those that are not abstract have a body. -/
theorem operations_written (h : (operations g id).answerIn m = .ok s) :
    ∃ fs, s = spaced fs ∧ List.Forall₂ (fun o f =>
      Member.WrittenFunction g m (!Modifier.isAbstract (m.get o)) true o f) (m.operationsOf id) fs := by
  rw [operations, answerIn_get_bind] at h
  obtain ⟨ids, hids, h⟩ := answerIn_lift_bind_eq_ok.mp h
  obtain rfl : m.operationsOf id = ids := Members.given_eq_ok hids
  refine forEach_written (fun _ => Member.method_keeps ..) (fun o before f grown hf => ?_) (.refl m) h
  exact Member.writtenFunction_of_method grown (by simpa using hf)

/-- The own operations of an interface or an annotation: none has a body. -/
theorem signatures_written (withParameters : Bool)
    (h : (signatures g id (!withParameters)).answerIn m = .ok s) :
    ∃ fs, s = spaced fs ∧
      List.Forall₂ (Member.WrittenFunction g m false withParameters) (m.operationsOf id) fs := by
  rw [signatures, answerIn_get_bind] at h
  obtain ⟨ids, hids, h⟩ := answerIn_lift_bind_eq_ok.mp h
  obtain rfl : m.operationsOf id = ids := Members.given_eq_ok hids
  refine forEach_written (fun _ => Member.method_keeps ..) (fun o before f grown hf => ?_) (.refl m) h
  exact Member.writtenFunction_of_method grown (by simpa using hf)

/-- What is written for some of the elements is spaced. -/
theorem flatten_eq_spaced {p : ElementId → Bool} {R : ElementId → Script → Prop}
    {ids : List ElementId} {scripts : List Script}
    (h : List.Forall₂ (fun id t => if p id then ∃ f, t = spaced [f] ∧ R id f else t = []) ids
      scripts) :
    ∃ fs, scripts.flatten = spaced fs ∧ List.Forall₂ R (ids.filter p) fs := by
  induction h with
  | nil => exact ⟨[], rfl, .nil⟩
  | @cons id t _ _ ht _ ih =>
    obtain ⟨fs, hfs, hrest⟩ := ih
    cases hp : p id with
    | true =>
      rw [if_pos hp] at ht
      obtain ⟨f, rfl, hf⟩ := ht
      refine ⟨f :: fs, ?_, ?_⟩
      · rw [List.flatten_cons, hfs, ← spaced_append, List.singleton_append]
      · rw [List.filter_cons_of_pos hp]
        exact .cons hf hrest
    | false =>
      rw [if_neg (by simp [hp])] at ht
      subst ht
      refine ⟨fs, ?_, ?_⟩
      · rw [List.flatten_cons, hfs, List.nil_append]
      · rwa [List.filter_cons_of_neg (by simp [hp])]

/-- The stubs for the abstract operations of a superclass. -/
theorem inheritedStubs_written (grown : m.GrowsTo before) {superClass : Option ElementId}
    (h : (inheritedStubs g superClass).answerIn before = .ok s) :
    ∃ ids fs, operationsOf before superClass = .ok ids ∧ (∀ o ∈ ids, before.get o = m.get o) ∧
      s = spaced fs ∧ WrittenStubs g m (ids.filter fun o => Modifier.isAbstract (m.get o)) fs := by
  rw [inheritedStubs, answerIn_get_bind] at h
  obtain ⟨ids, hids, h⟩ := answerIn_lift_bind_eq_ok.mp h
  obtain ⟨scripts, _, hscripts, h⟩ := answerIn_bind_eq_ok h
  cases h
  have written := mapM_grown (R := fun o t => before.get o = m.get o ∧
      if Modifier.isAbstract (m.get o) then
        ∃ f, t = spaced [f] ∧ Member.WrittenFunction g m true true o f
      else t = [])
    (fun o => ?_) (fun o between t grown' ht => ?_) grown hscripts
  · have same : ∀ o ∈ ids, before.get o = m.get o := by
      intro o ho
      obtain ⟨_, -, same, -⟩ := Outcome.exists_of_forall₂ written o ho
      exact same
    obtain ⟨fs, hfs, hwritten⟩ := flatten_eq_spaced (p := fun o => Modifier.isAbstract (m.get o))
      (written.imp fun _ _ h => h.2)
    exact ⟨ids, fs, hids, same, hfs, hwritten⟩
  · refine .bind (.lift _) fun e => ?_
    split
    · exact .bind (Member.method_keeps ..) fun _ => .pure _
    · exact .pure _
  · obtain ⟨e, he, ht⟩ := answerIn_lift_bind_eq_ok.mp ht
    have same := grown.get_eq_of_read (.inr he)
    obtain rfl := grown.read_eq he
    refine ⟨same, ?_⟩
    split at ht
    · rename_i abstract
      obtain ⟨f, _, hf, ht⟩ := answerIn_bind_eq_ok ht
      cases ht
      rw [if_pos abstract]
      exact ⟨f, rfl, Member.writtenFunction_of_method grown' hf⟩
    · rename_i concrete
      cases ht
      rw [if_neg concrete]

/-- Stubs that are written group by group are spaced. -/
theorem flatten_written {α : Type} {of : α → Except Fault (List ElementId)} {xs : List α}
    {scripts : List Script}
    (h : List.Forall₂ (fun x t => ∃ ids fs, of x = .ok ids ∧ t = spaced fs ∧ WrittenStubs g m ids fs)
      xs scripts) :
    ∃ groups fs, xs.mapM of = .ok groups ∧ scripts.flatten = spaced fs ∧
      WrittenStubs g m groups.flatten fs := by
  induction h with
  | nil => exact ⟨[], [], rfl, rfl, .nil⟩
  | cons first _ ih =>
    obtain ⟨ids, fs, hids, rfl, hfs⟩ := first
    obtain ⟨groups, fs', hgroups, hfs', hwritten⟩ := ih
    refine ⟨ids :: groups, fs ++ fs', ?_, ?_, ?_⟩
    · rw [List.mapM_cons, hids, hgroups]
      rfl
    · rw [List.flatten_cons, hfs', spaced_append]
    · exact List.rel_append hfs hwritten

/-- The stubs for the operations of interfaces. -/
theorem interfaceStubs_written (grown : m.GrowsTo before) {interfaces : List (Option ElementId)}
    (h : (interfaceStubs g interfaces).answerIn before = .ok s) :
    ∃ groups fs, interfaces.mapM (operationsOf before) = .ok groups ∧ s = spaced fs ∧
      WrittenStubs g m groups.flatten fs := by
  rw [interfaceStubs, answerIn_get_bind] at h
  obtain ⟨scripts, _, hscripts, h⟩ := answerIn_bind_eq_ok h
  cases h
  have written := mapM_grown (R := fun interface t => ∃ ids fs,
      operationsOf before interface = .ok ids ∧ t = spaced fs ∧ WrittenStubs g m ids fs)
    (fun interface => ?_) (fun interface between t grown' ht => ?_) grown hscripts
  · exact flatten_written written
  · exact .bind (.lift _) fun _ => forEach_keeps (fun _ => Member.method_keeps ..) _
  · obtain ⟨ids, hids, ht⟩ := answerIn_lift_bind_eq_ok.mp ht
    obtain ⟨fs, rfl, hfs⟩ := forEach_written (R := Member.WrittenFunction g m true true)
      (fun _ => Member.method_keeps ..)
      (fun _ _ _ grown hf => Member.writtenFunction_of_method grown (by simpa using hf)) grown' ht
    exact ⟨ids, fs, hids, rfl, hfs⟩

/-! ## Growing lists and related elements -/

/-- A related element whose name was asked for has the operations that it had. -/
theorem operationsOf_of_targetName (grown : m.GrowsTo before) {target : Option ElementId} {v : Value}
    (h : targetName m target = .ok v) : operationsOf before target = operationsOf m target := by
  cases target with
  | none => cases h
  | some id =>
    obtain ⟨e, he, -⟩ := Outcome.map_eq_ok.mp h
    rw [operationsOf, operationsOf, grown.get_eq_of_read (.inl he)]

theorem operationsOf_of_firstTarget (grown : m.GrowsTo before) {word : String}
    {targets : List (Option ElementId)} {words : List Value}
    (h : firstTarget m word targets = .ok words) :
    operationsOf before (targets.head?.getD none) = operationsOf m (targets.head?.getD none) := by
  cases targets with
  | nil => rfl
  | cons target rest =>
    obtain ⟨v, hv, -⟩ := Outcome.bind_eq_ok.mp h
    exact operationsOf_of_targetName grown hv

theorem mapM_operationsOf_of_allTargets (grown : m.GrowsTo before) {word : String}
    {targets : List (Option ElementId)} {words : List Value}
    (h : allTargets m word targets = .ok words) {groups : List (List ElementId)}
    (hgroups : targets.mapM (operationsOf before) = .ok groups) :
    targets.mapM (operationsOf m) = .ok groups := by
  rw [allTargets] at h
  split at h
  · rename_i none
    rw [List.isEmpty_iff.mp none] at hgroups ⊢
    exact hgroups
  · obtain ⟨names, hnames, -⟩ := Outcome.bind_eq_ok.mp h
    refine Outcome.mapM_eq_ok_of_imp (fun target ht ids hids => ?_) hgroups
    obtain ⟨v, -, hv⟩ := Outcome.exists_of_mapM hnames target ht
    rwa [operationsOf_of_targetName grown hv] at hids

end

end Declaration

end GosuForge
