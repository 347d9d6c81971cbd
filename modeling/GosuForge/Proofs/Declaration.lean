import GosuForge.Gosu.Declaration
import GosuForge.Proofs.Inspection

/-!
# Declarations and the model

Writing a declaration, or any part of one, lets nothing but kept lists grow: the type of an array is
the one place where a name is made longer.
-/

namespace GosuForge

open Inspection

/-- The default settings as they are accepted. -/
def GosuSettings.standard : GosuSettings where
  general := { Settings.default with custom := .obj Settings.gosuCustom }
  custom := Settings.gosuCustom
  sourceExtension := ".gs"
  enhancementExtension := ".gsx"
  indentSize := 4
  uses := [.str "java.util.*"]
  stub := .str "// TODO implement here"

namespace TypeStyle

/-- A type that is a kept list is the name of an element. -/
theorem named_of_baseName {m : Model} {e : Element} {id : ElementId}
    (h : default.baseName m e = .kept id) : ∃ named, (m.get named).name = .kept id := by
  unfold baseName at h
  split at h
  · rename_i t _
    refine ⟨t, ?_⟩
    simp only [Value.orElse, default] at h
    split at h
    · exact h
    · cases h
  · split at h
    · cases h
    · simp only [Value.orElse, default] at h
      split at h <;> cases h
  · cases h

theorem growsTo_withSuffix {m : Model} {type : Value}
    (named : ∀ id, type = .kept id → ∃ named, (m.get named).name = .kept id) (suffix : Value) :
    m.GrowsTo ((withSuffix type suffix).runIn m).2 := by
  unfold withSuffix
  rw [runIn_bind_of_ok _ (runIn_get m)]
  split
  · rename_i id items further _ hr
    have hc : ∃ old, (m.get id).content = .stray old := by
      simp only [Model.resolve] at hr
      split at hr
      · exact ⟨_, ‹_›⟩
      · cases hr
    obtain ⟨old, hc⟩ := hc
    refine ⟨Model.size_set .., fun j => ?_⟩
    change (m.set id _).get j = _ ∨ _
    rw [Model.get_set]
    split
    · rename_i hj
      exact Or.inr ⟨⟨old, _, hj.1 ▸ hc, (Model.get_set ..).trans (if_pos hj)⟩, hj.1 ▸ named id rfl⟩
    · exact Or.inl rfl
  · rw [runIn_lift]
    exact .refl m

theorem expression_keeps (e : Element) : Keeps (default.expression e) := by
  refine ⟨fun m => ?_⟩
  unfold expression
  rw [runIn_bind_of_ok _ (runIn_get m), runIn_bind, runIn_lift]
  rcases amountOf e with fault | amount
  · exact .refl m
  · cases amount with
    | single => exact .refl m
    | collection => exact .refl m
    | array => exact growsTo_withSuffix (fun id => named_of_baseName) _

end TypeStyle

namespace Member

theorem variableFor_keeps (g : GosuSettings) (e : Element) : Keeps (variableFor g e) := by
  unfold variableFor
  split
  · exact .pure _
  · exact .bind (.lift _) fun _ => .bind (TypeStyle.expression_keeps e) fun _ =>
      .bind (.lift _) fun _ => .bind (.lift _) fun _ => .pure _

theorem parameterText_keeps (p : Element) : Keeps (parameterText p) :=
  .bind .get fun _ => .bind (TypeStyle.expression_keeps p) fun _ => .bind .get fun _ => .pure _

theorem method_keeps (g : GosuSettings) (e : Element) (withoutBody withoutParameters : Bool) :
    Keeps (method g e withoutBody withoutParameters) := by
  unfold method
  split
  · exact .pure _
  · refine .bind .get fun m => .bind (.lift _) fun parameters => .bind (.lift _) fun doc => ?_
    refine .bind (.mapM _ fun p _ => parameterText_keeps p) fun texts => .bind .get fun m => ?_
    refine .bind ?_ fun type => .bind (.lift _) fun line => ?_
    · cases result? parameters with
      | none => exact .pure _
      | some p => exact .bind (TypeStyle.expression_keeps p) fun _ => .pure _
    · split
      · exact .pure _
      · exact .bind (.lift _) fun _ => .bind (.lift _) fun _ => .pure _

end Member

namespace Declaration

theorem spaced_append (fs fs' : List Script) : spaced (fs ++ fs') = spaced fs ++ spaced fs' := by
  induction fs with
  | nil => rfl
  | cons f rest ih => simp [spaced, ih]

theorem forEach_keeps {write : Element → Inspection Script} (h : ∀ e, Keeps (write e))
    (ids : List ElementId) : Keeps (forEach write ids) :=
  .bind (.mapM _ fun _ _ => .bind .get fun _ => .bind (.lift _) fun e => h e) fun _ => .pure _

theorem farVariable_keeps (g : GosuSettings) (id near far : ElementId) :
    Keeps (farVariable g id near far) := by
  refine .bind .get fun m => .bind (.lift _) fun reference => ?_
  split
  · exact .pure _
  · split
    · exact .throw _
    · split
      · exact forEach_keeps (Member.variableFor_keeps g) _
      · exact .pure _

theorem associationMembers_keeps (r : Repository) (g : GosuSettings) (id : ElementId) :
    Keeps (associationMembers r g id) := by
  refine .bind .get fun m => .bind (.lift _) fun associations => .bind (.mapM _ ?_) fun _ => .pure _
  intro ends _
  exact .bind (farVariable_keeps ..) fun _ => .bind (farVariable_keeps ..) fun _ => .pure _

theorem members_keeps (r : Repository) (g : GosuSettings) (id : ElementId)
    (withAssociations : Bool) : Keeps (members r g id withAssociations) := by
  refine .bind .get fun m => .bind (.lift _) fun attributes => ?_
  refine .bind (forEach_keeps (Member.variableFor_keeps g) _) fun own => ?_
  dsimp only
  split
  · exact .bind (associationMembers_keeps r g id) fun _ => .pure _
  · exact .bind (.pure _) fun _ => .pure _

theorem operations_keeps (g : GosuSettings) (id : ElementId) : Keeps (operations g id) :=
  .bind .get fun _ => .bind (.lift _) fun _ => forEach_keeps (fun _ => Member.method_keeps ..) _

theorem signatures_keeps (g : GosuSettings) (id : ElementId) (withoutParameters : Bool) :
    Keeps (signatures g id withoutParameters) :=
  .bind .get fun _ => .bind (.lift _) fun _ => forEach_keeps (fun _ => Member.method_keeps ..) _

theorem inheritedStubs_keeps (g : GosuSettings) (superClass : Option ElementId) :
    Keeps (inheritedStubs g superClass) := by
  refine .bind .get fun m => .bind (.lift _) fun ids => .bind (.mapM _ ?_) fun _ => .pure _
  intro id _
  refine .bind (.lift _) fun e => ?_
  split
  · exact .bind (Member.method_keeps ..) fun _ => .pure _
  · exact .pure _

theorem interfaceStubs_keeps (g : GosuSettings) (interfaces : List (Option ElementId)) :
    Keeps (interfaceStubs g interfaces) := by
  refine .bind .get fun m => .bind (.mapM _ ?_) fun _ => .pure _
  intro interface _
  exact .bind (.lift _) fun _ => forEach_keeps (fun _ => Member.method_keeps ..) _

theorem classScript_keeps (r : Repository) (g : GosuSettings) (id : ElementId) :
    Keeps (classScript r g id) := by
  refine .bind .get fun m => .bind (.lift _) fun doc => .bind (.lift _) fun modifiers => ?_
  refine .bind (.lift _) fun superClasses => .bind (.lift _) fun extended => ?_
  refine .bind (.lift _) fun interfaces => .bind (.lift _) fun implemented => ?_
  refine .bind (.lift _) fun opening => .bind (members_keeps ..) fun fields => ?_
  refine .bind (operations_keeps ..) fun functions => .bind (inheritedStubs_keeps ..) fun _ => ?_
  exact .bind (interfaceStubs_keeps ..) fun _ => .pure _

theorem enhancementScript_keeps (r : Repository) (g : GosuSettings) (id : ElementId) :
    Keeps (enhancementScript r g id) := by
  refine .bind .get fun m => .bind (.lift _) fun doc => .bind (.lift _) fun superClasses => ?_
  refine .bind (.lift _) fun extended => .bind (.lift _) fun opening => ?_
  exact .bind (members_keeps ..) fun fields => .bind (operations_keeps ..) fun _ => .pure _

theorem interfaceScript_keeps (r : Repository) (g : GosuSettings) (id : ElementId) :
    Keeps (interfaceScript r g id) := by
  refine .bind .get fun m => .bind (.lift _) fun superClasses => .bind (.lift _) fun extended => ?_
  refine .bind (.lift _) fun opening => .bind (members_keeps ..) fun fields => ?_
  exact .bind (signatures_keeps ..) fun _ => .pure _

theorem annotationScript_keeps (r : Repository) (g : GosuSettings) (id : ElementId) :
    Keeps (annotationScript r g id) := by
  refine .bind .get fun m => .bind (.lift _) fun doc => .bind (.lift _) fun modifiers => ?_
  refine .bind (.lift _) fun opening => .bind (members_keeps ..) fun fields => ?_
  refine .bind (signatures_keeps ..) fun functions => .bind (.lift _) fun superClasses => ?_
  exact .bind (inheritedStubs_keeps ..) fun _ => .pure _

theorem around_keeps {own nested : Inspection Script} (ho : Keeps own) (hn : Keeps nested) :
    Keeps (around own nested) :=
  .bind ho fun _ => .bind hn fun _ => .pure _

theorem scriptFor_keeps (r : Repository) (g : GosuSettings) (form : DeclarationForm)
    (id : ElementId) {nested : Inspection Script} (h : Keeps nested) :
    Keeps (scriptFor r g form id nested) := by
  cases form with
  | classForm => exact around_keeps (classScript_keeps r g id) h
  | enhancement => exact around_keeps (enhancementScript_keeps r g id) h
  | interface => exact around_keeps (interfaceScript_keeps r g id) h
  | annotationForm => exact around_keeps (annotationScript_keeps r g id) h
  | enumeration => exact .bind .get fun _ => .lift _

theorem ownedScript_keeps (r : Repository) (g : GosuSettings) (m : Model) (child : ElementId)
    {nested : Inspection Script} (h : Keeps nested) : Keeps (ownedScript r g m child nested) := by
  refine .bind (.lift _) fun e => ?_
  split
  · exact .pure _
  · split
    · exact .pure _
    · exact .bind (scriptFor_keeps r g _ child h) fun _ => .pure _

theorem nestedScript_keeps (r : Repository) (g : GosuSettings) (fuel : Nat) (id : ElementId) :
    Keeps (nestedScript r g fuel id) := by
  induction fuel generalizing id with
  | zero => exact .throw _
  | succ fuel ih =>
    refine .bind .get fun m => .bind (.lift _) fun owned => .bind (.mapM _ ?_) fun _ => .pure _
    exact fun child _ => ownedScript_keeps r g m child (ih child)

theorem script_keeps (r : Repository) (g : GosuSettings) (form : DeclarationForm)
    (id : ElementId) : Keeps (script r g form id) :=
  .bind .get fun _ => scriptFor_keeps r g form id (nestedScript_keeps r g _ id)

end Declaration

end GosuForge
