import GosuForge.Proofs.CommentEnd
import GosuForge.Proofs.DeclarationBody
import GosuForge.Proofs.Tags

/-!
# The comments of a declaration

A declaration, its variables and its functions each start with a comment. What goes into it depends on
what is written: the author only into the comments of some declarations, and tags only into those of
functions.

* `DeclarationForm.commentTexts`, `Member.commentTexts`: what goes into the comment of a declaration and
  of an operation;
* `Documentation.StartsCommented`: a text starts with the comment of some texts;
* `Declaration.startsCommented`: a declaration in any form does;
* `Declaration.Body.startsCommented`: so do its variables and its functions.
-/

namespace GosuForge

open Documentation Inspection

/-- The text begins with the comment that the given texts go into, if there is one. -/
def Documentation.StartsCommented (m : Model) (g : GosuSettings) (texts : List String) (f : Script) :
    Prop :=
  ∃ text code, f = block g text ++ code ∧ (block g text = [] ∨ MadeOf m g texts text)

/-- A documentation that is written as it is. -/
theorem Documentation.madeOf_documentation (m : Model) (g : GosuSettings) (e : Element) :
    block g e.documentation = [] ∨ MadeOf m g [m.display e.documentation] e.documentation := by
  rcases block_cases g e.documentation with none | ⟨s, hs, -⟩
  · exact .inl none
  · rw [hs]
    exact .inr (.alone s)

namespace DeclarationForm

/-- Whether the author stands in the comments of declarations in the form. -/
def showsAuthor : DeclarationForm → Bool
  | classForm | enhancement | annotationForm => true
  | interface | enumeration => false

/-- What goes into the comment of a declaration. -/
def commentTexts (m : Model) (g : GosuSettings) (form : DeclarationForm) (e : Element) :
    List String :=
  m.display e.documentation :: if form.showsAuthor then authors g else []

theorem madeOf_commentTexts (m : Model) {g : GosuSettings} {form : DeclarationForm} {e : Element}
    {doc : Value} (h : form.documentation g e = .ok doc) :
    block g doc = [] ∨ MadeOf m g (form.commentTexts m g e) doc := by
  cases form with
  | classForm | enhancement | annotationForm =>
    obtain ⟨s, hs, rfl⟩ := Outcome.map_eq_ok.mp h
    exact .inr (.declaration hs)
  | interface | enumeration =>
    cases h
    exact madeOf_documentation m g e

end DeclarationForm

namespace Member

variable {m : Model} {g : GosuSettings} {id : ElementId} {f : Script}

/-- What goes into the comment of an operation with some parameters. -/
def commentTexts (m : Model) (e : Element) (parameters : List Element) : List String :=
  ownLines (m.display e.documentation) ++ tagTexts m (inputs parameters) (result? parameters)

theorem WrittenVariable.startsCommented (h : WrittenVariable g m id f)
    (named : (m.get id).isNamed = true) :
    StartsCommented m g [m.display (m.get id).documentation] f := by
  obtain ⟨name, type, after, -, hf⟩ := h.isVariable.1 named
  exact ⟨_, _, hf, madeOf_documentation m g (m.get id)⟩

/-- The parameters of an operation are read in the model as it is when its function is written. -/
theorem WrittenFunction.startsCommented {withBody withParameters : Bool}
    (h : WrittenFunction g m withBody withParameters id f) (named : (m.get id).isNamed = true) :
    ∃ before parameters, m.GrowsTo before ∧ parametersOf before (m.get id) = .ok parameters ∧
      StartsCommented before g (commentTexts before (m.get id) parameters) f := by
  obtain ⟨before, grown, answered⟩ := h.answered
  obtain ⟨parameters, doc, code, hparameters, hdoc, hf⟩ := exists_comment_of_method named answered
  exact ⟨before, parameters, grown, hparameters, _, code, hf, .inr (.operation hparameters hdoc)⟩

end Member

namespace Declaration

variable {r : Repository} {g : GosuSettings} {m : Model} {form : DeclarationForm} {id : ElementId}

/-- **A declaration starts with its comment**, into which go its documentation and, in some forms, the
author. -/
theorem startsCommented {nested : Inspection Script} {s : Script}
    (h : (scriptFor r g form id nested).answerIn m = .ok s) :
    StartsCommented m g (form.commentTexts m g (m.get id)) s := by
  by_cases hf : form = .enumeration
  · subst hf
    rw [scriptFor, answerIn_get_bind, answerIn_lift] at h
    obtain ⟨lines, -, rfl⟩ := exists_literals h
    simp only [List.append_assoc]
    exact ⟨_, _, rfl, madeOf_documentation m g (m.get id)⟩
  · obtain ⟨b, inner, -, -, -, rfl⟩ := exists_body hf h
    simp only [Body.script, List.append_assoc]
    exact ⟨b.doc, _, rfl, DeclarationForm.madeOf_commentTexts m b.doc_eq⟩

/-- **The members of a declaration start with their comments.** Into that of a variable goes the
documentation of the attribute or the end; into that of a function go the documentation of the operation
without its tags, and the names and documentations of its parameters. -/
theorem Body.startsCommented (b : Body r g m form id) :
    List.Forall₂ (fun id f => (m.get id).isNamed = true →
        StartsCommented m g [m.display (m.get id).documentation] f)
      (m.attributesOf id ++ (r.memberEnds m form id).map AssociationSide.far)
      (b.attributes ++ b.ends) ∧
    List.Forall₂ (fun o f => (m.get o).isNamed = true →
        ∃ before parameters, m.GrowsTo before ∧
          Member.parametersOf before (m.get o) = .ok parameters ∧
          StartsCommented before g (Member.commentTexts before (m.get o) parameters) f)
      (m.operationsOf id ++ b.groups.flatten) b.functions := by
  constructor
  · exact List.rel_append (b.attributes_written.imp fun _ _ h => h.startsCommented)
      (b.ends_written.imp fun _ _ h => h.startsCommented)
  · exact List.rel_append (b.own_written.imp fun _ _ h => h.startsCommented)
      (b.stubs_written.imp fun _ _ h => h.startsCommented)

end Declaration

end GosuForge
