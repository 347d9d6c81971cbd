import GosuForge.Proofs.CommentText
import GosuForge.Proofs.Declaration
import GosuForge.Proofs.Layout
import GosuForge.Proofs.Outcome

/-!
# Layouts of declarations

Every part of a declaration is balanced: only the opening of a body goes a level deeper, and its
end comes back. What is nested in a declaration is therefore laid out as it is on its own, one level
deeper.
-/

namespace GosuForge

open Inspection Script

/-! ## Parts -/

theorem Documentation.block_balanced (g : GosuSettings) (text : Value) :
    Balanced (block g text) := by
  rcases block_cases g text with none | ⟨s, -, -, -, lines⟩
  · rw [none]
    exact .nil
  · rw [lines]
    exact .map_line id _

namespace Member

theorem constructor_balanced (g : GosuSettings) (e : Element) : Balanced (constructor g e) := by
  unfold constructor
  split
  · exact .nil
  · exact (Documentation.block_balanced g _).append rfl

theorem variableFor_balanced (g : GosuSettings) (e : Element) :
    Yields Balanced (variableFor g e) := by
  unfold variableFor
  split
  · exact .pure .nil
  · exact .after fun _ => .after fun _ => .after fun _ => .after fun line =>
      .pure ((Documentation.block_balanced g _).append (.line line))

theorem stubLine_eq_line {stub : Value} {move : Move} (h : stubLine stub = .ok move) :
    ∃ text, move = .line text := by
  unfold stubLine at h
  split at h
  · exact ⟨_, (Except.ok.inj h).symm⟩
  · split at h
    · exact ⟨_, (Except.ok.inj h).symm⟩
    · cases h

theorem returnLines_balanced {m : Model} {type : Option Value} {lines : Script}
    (h : returnLines m type = .ok lines) : Balanced lines := by
  cases type with
  | none =>
    cases h
    exact .nil
  | some type =>
    obtain ⟨value, -, h⟩ := Outcome.bind_eq_ok.mp h
    cases value with
    | none =>
      cases h
      exact .nil
    | some v =>
      cases h
      exact .line _

/-- The body of a function is one level deeper than the function. -/
theorem body_balanced (line last : String) {stub : Move} (hs : ∃ text, stub = .line text)
    {returned : Script} (hr : Balanced returned) :
    Balanced ([.line line, .indent, stub] ++ returned ++ [.outdent, .line last]) := by
  obtain ⟨text, rfl⟩ := hs
  have h : depthAfter 0 [.line line, .indent, .line text] = some 1 := rfl
  rw [Script.Balanced, depthAfter_append, depthAfter_append, h, Option.bind_some, hr.depthAfter 1]
  rfl

theorem method_balanced (g : GosuSettings) (e : Element) (withoutBody withoutParameters : Bool) :
    Yields Balanced (method g e withoutBody withoutParameters) := by
  unfold method
  split
  · exact .pure .nil
  · refine .after fun m => .after fun parameters => .after fun doc => .after fun texts => ?_
    refine .after fun m => .after fun type => .after fun line => ?_
    have head := Documentation.block_balanced g (.str doc)
    split
    · exact .pure (head.append (.line line))
    · refine (Yields.lift fun _ => stubLine_eq_line).bind fun stub hs => ?_
      refine (Yields.lift fun _ => returnLines_balanced).bind fun returned hr => .pure ?_
      have body := body_balanced (line ++ " \x7b") "\x7d" hs hr
      simpa only [List.append_assoc] using head.append body

end Member

namespace Declaration

theorem spaced_balanced {scripts : List Script} (h : ∀ s ∈ scripts, Balanced s) :
    Balanced (spaced scripts) := by
  induction scripts with
  | nil => exact .nil
  | cons s scripts ih =>
    have hs := h s List.mem_cons_self
    exact hs.append ((Balanced.line "").append (ih fun t ht => h t (List.mem_cons_of_mem _ ht)))

theorem forEach_balanced {write : Element → Inspection Script}
    (h : ∀ e, Yields Balanced (write e)) (ids : List ElementId) :
    Yields Balanced (forEach write ids) := by
  refine (Yields.mapM ids fun id _ => ?_).bind fun scripts hs => .pure (spaced_balanced hs)
  exact .after fun m => .after fun e => h e

theorem farVariable_balanced (g : GosuSettings) (id near far : ElementId) :
    Yields Balanced (farVariable g id near far) := by
  refine .after fun m => .after fun reference => ?_
  split
  · exact .pure .nil
  · split
    · exact .throw _
    · split
      · exact forEach_balanced (Member.variableFor_balanced g) _
      · exact .pure .nil

theorem associationMembers_balanced (r : Repository) (g : GosuSettings) (id : ElementId) :
    Yields Balanced (associationMembers r g id) := by
  refine .after fun m => .after fun associations => ?_
  refine (Yields.mapM associations fun ends _ => ?_).bind fun scripts hs =>
    .pure (Balanced.flatten scripts hs)
  exact (farVariable_balanced ..).bind fun _ h => (farVariable_balanced ..).bind fun _ h' =>
    .pure (h.append h')

theorem members_balanced (r : Repository) (g : GosuSettings) (id : ElementId)
    (withAssociations : Bool) : Yields Balanced (members r g id withAssociations) := by
  refine .after fun m => .after fun attributes => ?_
  refine (forEach_balanced (Member.variableFor_balanced g) _).bind fun own ho => ?_
  dsimp only
  split
  · exact (associationMembers_balanced r g id).bind fun _ h => .pure (ho.append h)
  · exact (Yields.pure Balanced.nil).bind fun _ h => .pure (ho.append h)

theorem operations_balanced (g : GosuSettings) (id : ElementId) :
    Yields Balanced (operations g id) :=
  .after fun _ => .after fun _ => forEach_balanced (fun _ => Member.method_balanced ..) _

theorem signatures_balanced (g : GosuSettings) (id : ElementId) (withoutParameters : Bool) :
    Yields Balanced (signatures g id withoutParameters) :=
  .after fun _ => .after fun _ => forEach_balanced (fun _ => Member.method_balanced ..) _

theorem inheritedStubs_balanced (g : GosuSettings) (superClass : Option ElementId) :
    Yields Balanced (inheritedStubs g superClass) := by
  refine .after fun m => .after fun ids => ?_
  refine (Yields.mapM ids fun id _ => .after fun e => ?_).bind fun scripts hs =>
    .pure (Balanced.flatten scripts hs)
  split
  · refine (Member.method_balanced ..).bind fun lines h => .pure (spaced_balanced fun s hs => ?_)
    exact List.mem_singleton.mp hs ▸ h
  · exact .pure .nil

theorem interfaceStubs_balanced (g : GosuSettings) (interfaces : List (Option ElementId)) :
    Yields Balanced (interfaceStubs g interfaces) := by
  refine .after fun m => (Yields.mapM interfaces fun interface _ => ?_).bind fun scripts hs =>
    .pure (Balanced.flatten scripts hs)
  exact .after fun ids => forEach_balanced (fun _ => Member.method_balanced ..) _

theorem literalLines_balanced {m : Model} {ids : List ElementId} {lines : Script}
    (h : literalLines m ids = .ok lines) : Balanced lines := by
  induction ids generalizing lines with
  | nil =>
    cases h
    exact .nil
  | cons id ids ih =>
    obtain ⟨e, -, h⟩ := Outcome.bind_eq_ok.mp h
    split at h
    · obtain ⟨rest, hr, h⟩ := Outcome.bind_eq_ok.mp h
      cases h
      exact (Balanced.line _).append (ih hr)
    · cases h

/-! ## Whole declarations -/

theorem head_opens {modifiers related : List Value} {keyword : String} {e : Element}
    {opening : Script} (h : head modifiers keyword e related = .ok opening) : Opens opening := by
  obtain ⟨line, -, h⟩ := Outcome.bind_eq_ok.mp h
  cases h
  rfl

theorem classScript_opens (r : Repository) (g : GosuSettings) (id : ElementId) :
    Yields Opens (classScript r g id) := by
  refine .after fun m => .after fun doc => .after fun modifiers => .after fun superClasses => ?_
  refine .after fun extended => .after fun interfaces => .after fun implemented => ?_
  refine (Yields.lift fun _ => head_opens).bind fun opening ho => ?_
  refine (members_balanced ..).bind fun fields hf => (operations_balanced ..).bind fun _ hm => ?_
  refine (inheritedStubs_balanced ..).bind fun _ hi => (interfaceStubs_balanced ..).bind fun _ hs => ?_
  have opened := (Documentation.block_balanced g (.str doc)).append_opens ho
  have built := (opened.append (Member.constructor_balanced g (m.get id))).append (.line "")
  exact .pure ((((built.append hf).append hm).append hi).append hs)

theorem enhancementScript_opens (r : Repository) (g : GosuSettings) (id : ElementId) :
    Yields Opens (enhancementScript r g id) := by
  refine .after fun m => .after fun doc => .after fun superClasses => .after fun extended => ?_
  refine (Yields.lift fun _ => head_opens).bind fun opening ho => ?_
  refine (members_balanced ..).bind fun fields hf => (operations_balanced ..).bind fun _ hm => ?_
  have opened := (Documentation.block_balanced g (.str doc)).append_opens ho
  exact .pure ((opened.append hf).append hm)

theorem interfaceScript_opens (r : Repository) (g : GosuSettings) (id : ElementId) :
    Yields Opens (interfaceScript r g id) := by
  refine .after fun m => .after fun superClasses => .after fun extended => ?_
  refine (Yields.lift fun _ => head_opens).bind fun opening ho => ?_
  refine (members_balanced ..).bind fun fields hf => (signatures_balanced ..).bind fun _ hm => ?_
  have opened := (Documentation.block_balanced g (m.get id).documentation).append_opens ho
  exact .pure ((opened.append hf).append hm)

theorem annotationScript_opens (r : Repository) (g : GosuSettings) (id : ElementId) :
    Yields Opens (annotationScript r g id) := by
  refine .after fun m => .after fun doc => .after fun modifiers => ?_
  refine (Yields.lift fun _ => head_opens).bind fun opening ho => ?_
  refine (members_balanced ..).bind fun fields hf => (signatures_balanced ..).bind fun _ hm => ?_
  refine .after fun superClasses => (inheritedStubs_balanced ..).bind fun _ hi => ?_
  have opened := (Documentation.block_balanced g (.str doc)).append_opens ho
  exact .pure (((opened.append hf).append hm).append hi)

theorem enumerationScript_balanced {m : Model} {g : GosuSettings} {id : ElementId} {script : Script}
    (h : enumerationScript m g id = .ok script) : Balanced script := by
  obtain ⟨literals, -, h⟩ := Outcome.bind_eq_ok.mp h
  obtain ⟨lines, hl, h⟩ := Outcome.bind_eq_ok.mp h
  cases h
  have opened := (Documentation.block_balanced g (m.get id).documentation).append_opens
    (t := [.line ("enum " ++ m.display (m.get id).name ++ " \x7b"), .indent]) rfl
  have filled := opened.append (literalLines_balanced hl)
  rw [Script.Balanced, depthAfter_append, filled]
  rfl

/-- An opened body with something balanced in it is closed again. -/
theorem around_balanced {own nested : Script} (ho : Opens own) (hn : Balanced nested) :
    Balanced (own ++ nested ++ close) := by
  rw [Script.Balanced, depthAfter_append, ho.append hn]
  rfl

/-- Every form but that of an enumeration is written around what is nested in it. -/
theorem exists_scriptFor_eq_around (r : Repository) (g : GosuSettings) {form : DeclarationForm}
    (hf : form ≠ .enumeration) (id : ElementId) :
    ∃ own, Keeps own ∧ Yields Opens own ∧ ∀ nested, scriptFor r g form id nested = around own nested := by
  cases form with
  | classForm => exact ⟨_, classScript_keeps r g id, classScript_opens r g id, fun _ => rfl⟩
  | enhancement =>
    exact ⟨_, enhancementScript_keeps r g id, enhancementScript_opens r g id, fun _ => rfl⟩
  | interface => exact ⟨_, interfaceScript_keeps r g id, interfaceScript_opens r g id, fun _ => rfl⟩
  | annotationForm =>
    exact ⟨_, annotationScript_keeps r g id, annotationScript_opens r g id, fun _ => rfl⟩
  | enumeration => exact absurd rfl hf

theorem scriptFor_balanced (r : Repository) (g : GosuSettings) (form : DeclarationForm)
    (id : ElementId) {nested : Inspection Script} (h : Yields Balanced nested) :
    Yields Balanced (scriptFor r g form id nested) := by
  by_cases hf : form = .enumeration
  · subst hf
    exact .after fun m => .lift fun _ => enumerationScript_balanced
  · obtain ⟨own, -, ho, e⟩ := exists_scriptFor_eq_around r g hf id
    rw [e]
    exact ho.bind fun _ ho => h.bind fun _ hn => .pure (around_balanced ho hn)

theorem ownedScript_balanced (r : Repository) (g : GosuSettings) (m : Model) (child : ElementId)
    {nested : Inspection Script} (h : Yields Balanced nested) :
    Yields Balanced (ownedScript r g m child nested) := by
  refine .after fun e => ?_
  split
  · exact .pure .nil
  · split
    · exact .pure .nil
    · exact (scriptFor_balanced r g _ child h).bind fun _ hs => .pure (hs.append (.line ""))

theorem nestedScript_balanced (r : Repository) (g : GosuSettings) (fuel : Nat) (id : ElementId) :
    Yields Balanced (nestedScript r g fuel id) := by
  induction fuel generalizing id with
  | zero => exact .throw _
  | succ fuel ih =>
    refine .after fun m => .after fun owned => ?_
    refine (Yields.mapM owned fun child _ => ?_).bind fun scripts hs =>
      .pure (Balanced.flatten scripts hs)
    exact ownedScript_balanced r g m child (ih child)

theorem script_balanced (r : Repository) (g : GosuSettings) (form : DeclarationForm)
    (id : ElementId) : Yields Balanced (script r g form id) :=
  .after fun _ => scriptFor_balanced r g form id (nestedScript_balanced r g _ id)

end Declaration

end GosuForge
