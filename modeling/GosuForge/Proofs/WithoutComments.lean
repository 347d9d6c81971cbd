import GosuForge.Gosu.SourceFile
import GosuForge.Proofs.CommentBlocks
import GosuForge.Proofs.DeclarationLayout
import GosuForge.Proofs.Function
import GosuForge.Proofs.NestedDeclaration
import GosuForge.Proofs.Path
import GosuForge.Proofs.Resolution

/-!
# Declarations without comments

Settings that ask for no comments change nothing but the comments: a declaration has the same lines
otherwise, and where it cannot be written with comments it cannot be written without.

* `GosuSettings.commented`: settings that ask for comments, or for none;
* `Inspection.RunAlike`: inspections that end alike, and leave the same model;
* `Member.method_uncommented`, `Declaration.scriptFor_uncommented`: the parts of a declaration;
* `SourceFile.render?_alike`: its file can be made with comments if and only if without;
* `Declaration.script_uncommented`: a declaration without comments is the one with them after their
  blocks are deleted.
-/

namespace GosuForge

/-- The settings with comments, or without them. -/
def GosuSettings.commented (g : GosuSettings) (wanted : Bool) : GosuSettings :=
  { g with general := g.general.set (.bool wanted) .docComments }

namespace Inspection

variable {α β : Type}

/-- From each model that the given one grows to, two inspections end alike and leave one model. -/
def RunAlike (m : Model) (R : α → α → Prop) (i i' : Inspection α) : Prop :=
  ∀ before, m.GrowsTo before → m.GrowsTo (i.runIn before).2 ∧
    (i'.runIn before).2 = (i.runIn before).2 ∧
    Outcome.Alike R (i.runIn before).1 (i'.runIn before).1

namespace RunAlike

variable {m : Model} {R : α → α → Prop} {Q : β → β → Prop} {i i' : Inspection α}
  {f f' : α → Inspection β}

theorem pure {x y : α} (h : R x y) : RunAlike m R (pure x) (pure y) :=
  fun _ grown => ⟨grown, rfl, h⟩

theorem throw (fault : Fault) : RunAlike m R (throw fault) (throw fault) :=
  fun _ grown => ⟨grown, rfl, rfl⟩

theorem bind (hi : RunAlike m R i i') (hf : ∀ x y, R x y → RunAlike m Q (f x) (f' y)) :
    RunAlike m Q (i >>= f) (i' >>= f') := by
  intro before grown
  obtain ⟨grown', same, alike⟩ := hi before grown
  rw [runIn_bind, runIn_bind]
  rcases hr : i.runIn before with ⟨fault | x, between⟩ <;>
    rcases hr' : i'.runIn before with ⟨fault' | y, between'⟩ <;>
    rw [hr, hr'] at same alike <;> rw [hr] at grown' <;> cases same
  · exact ⟨grown', rfl, alike⟩
  · exact alike.elim
  · exact alike.elim
  · exact hf x y alike between grown'

/-- A look at the model. -/
theorem look {f f' : Model → Inspection β}
    (hf : ∀ before, m.GrowsTo before → RunAlike m Q (f before) (f' before)) :
    RunAlike m Q (get >>= f) (get >>= f') :=
  fun before grown => hf before grown before grown

/-- A step that both have in common. -/
theorem after (keeps : Keeps i) (hf : ∀ x, RunAlike m Q (f x) (f' x)) :
    RunAlike m Q (i >>= f) (i >>= f') := by
  refine bind (R := Eq) (fun before grown => ?_) fun x y e => e ▸ hf x
  refine ⟨grown.trans (keeps.growsTo before), rfl, ?_⟩
  cases (i.runIn before).1 <;> rfl

theorem lift {x x' : Except Fault α} (h : Outcome.Alike R x x') :
    RunAlike m R (liftM x) (liftM x') := by
  intro before grown
  rw [runIn_lift, runIn_lift]
  exact ⟨grown, rfl, h⟩

/-- A step in common that does not look at the model. -/
theorem check {x : Except Fault α} (hf : ∀ y, x = .ok y → RunAlike m Q (f y) (f' y)) :
    RunAlike m Q (liftM x >>= f) (liftM x >>= f') := by
  cases x with
  | error fault => exact fun before grown => ⟨grown, rfl, rfl⟩
  | ok y => exact fun before grown => hf y rfl before grown

/-- What the first one yields in any case. -/
theorem yielding {p : α → Prop} (h : RunAlike m R i i') (yields : Yields p i) :
    RunAlike m (fun x y => p x ∧ R x y) i i' := by
  intro before grown
  obtain ⟨grown', same, alike⟩ := h before grown
  refine ⟨grown', same, ?_⟩
  rcases hr : (i.runIn before).1 with fault | x <;>
    rcases hr' : (i'.runIn before).1 with fault' | y <;> rw [hr, hr'] at alike
  · exact alike
  · exact alike
  · exact alike
  · exact ⟨yields.holds hr, alike⟩

theorem mapM {f f' : α → Inspection β} {xs : List α} (h : ∀ x ∈ xs, RunAlike m Q (f x) (f' x)) :
    RunAlike m (List.Forall₂ Q) (xs.mapM f) (xs.mapM f') := by
  induction xs with
  | nil => exact pure .nil
  | cons x xs ih =>
    obtain ⟨first, others⟩ := List.forall_mem_cons.mp h
    rw [List.mapM_cons, List.mapM_cons]
    exact first.bind fun _ _ hy => (ih others).bind fun _ _ hys => pure (.cons hy hys)

end RunAlike

end Inspection

open Inspection
open Script (Uncommented)

variable {m : Model} {g : GosuSettings}

/-! ## Lines that start no comment -/

namespace Text

/-- A line with some other character that is not blank. -/
theorem trim_ne_of_mem {c : Char} {text : String} (hc : c ∈ text.toList) (blank : isBlank c = false)
    (other : c ∉ "/**".toList) : trim text ≠ "/**" :=
  fun e => other (e ▸ mem_trim blank hc)

end Text

/-- A line of words with such a character in one of them. -/
theorem trim_ne_of_phrase {words : List Value} {line : String} (h : phrase words = .ok line)
    (word : String) (hw : .str word ∈ words) (c : Char) (hc : c ∈ word.toList)
    (blank : Text.isBlank c = false) (other : c ∉ "/**".toList) : Text.trim line ≠ "/**" := by
  obtain ⟨texts, rfl, rfl⟩ := Model.joinNames_eq_ok h
  obtain ⟨text, ht, e⟩ := List.mem_map.mp hw
  cases e
  exact Text.trim_ne_of_mem ((Text.infix_join " " ht).subset hc) blank other

/-- A line that ends with an opening brace. -/
theorem trim_ne_of_brace {t : String} (ht : '\x7b' ∈ t.toList) (s : String) :
    Text.trim (s ++ t) ≠ "/**" := by
  have brace : '\x7b' ∈ (s ++ t).toList := by
    rw [String.toList_append]
    exact List.mem_append_right _ ht
  exact Text.trim_ne_of_mem brace (by decide) (by decide)

/-- Neither the statement for stubs nor the name of a literal looks like the start of a comment. -/
structure StartNoComment (m : Model) (g : GosuSettings) : Prop where
  stub : ∀ s, g.stub = .str s → Text.trim s ≠ "/**"
  literals : ∀ id, ∀ l ∈ m.literalsOf id, ∀ s, (m.get l).name = .str s → Text.trim s ≠ "/**"

theorem Script.Uncommented.line {text : String} (h : Text.trim text ≠ "/**") :
    Uncommented [.line text] [.line text] :=
  .move (fun other e => by cases e; exact h) .nil

theorem Script.Uncommented.empty : Uncommented [.line ""] [.line ""] := .line (by decide)

theorem Script.Uncommented.indent : Uncommented [.indent] [.indent] := .move nofun .nil

theorem Script.Uncommented.close : Uncommented Declaration.close Declaration.close :=
  .move nofun (.line (by decide))

theorem Model.GrowsTo.literalsOf_subset {before : Model} (h : m.GrowsTo before) (id : ElementId) :
    before.literalsOf id ⊆ m.literalsOf id := by
  rcases h.2 id with same | ⟨⟨_, new, -, grown⟩, -⟩
  · rw [Model.literalsOf, same]
    exact fun l hl => hl
  · rw [Model.literalsOf, grown]
    exact fun l hl => absurd hl List.not_mem_nil

/-! ## Members -/

/-- All that the settings decide is whether a comment is written. -/
theorem Documentation.block_uncommented (g : GosuSettings) (text : Value) :
    Uncommented (block (g.commented true) text) (block (g.commented false) text) := by
  have wanted : (g.commented true).general.docComments.truthy = true := rfl
  have without : block (g.commented false) text = [] := rfl
  rw [without]
  unfold block
  simp only [wanted, Bool.not_true, Bool.false_eq_true, if_false]
  split
  · split
    · exact .nil
    · exact .comment .nil
  · exact .nil

namespace Member

theorem constructor_uncommented (g : GosuSettings) (e : Element) :
    Uncommented (constructor (g.commented true) e) (constructor (g.commented false) e) := by
  unfold constructor
  split
  · exact .nil
  · have doc := Documentation.block_uncommented g (.str "Default constructor")
    have closing : Uncommented [.line "\x7d"] [.line "\x7d"] := .line (by decide)
    exact doc.append ((Uncommented.line (trim_ne_of_brace (by decide) _)).append closing)

theorem variableFor_uncommented (g : GosuSettings) (e : Element) :
    RunAlike m Uncommented (variableFor (g.commented true) e) (variableFor (g.commented false) e) := by
  unfold variableFor
  split
  · exact .pure .nil
  · refine .after (.lift _) fun field => .after (TypeStyle.expression_keeps e) fun type =>
      .after (.lift _) fun default => .check fun line hline => .pure ?_
    have other := trim_ne_of_phrase hline "var" (by simp) 'v' (by decide) (by decide) (by decide)
    exact (Documentation.block_uncommented g _).append (.line other)

theorem stubLine_uncommented (quiet : StartNoComment m g) {stub : Move}
    (h : stubLine g.stub = .ok stub) : Uncommented [stub] [stub] := by
  unfold stubLine at h
  split at h
  · cases h
    exact .empty
  · split at h
    · rename_i s hs
      cases h
      exact .line (quiet.stub s hs)
    · cases h

theorem returnLines_uncommented {before : Model} {type : Option Value} {lines : Script}
    (h : returnLines before type = .ok lines) : Uncommented lines lines := by
  cases type with
  | none =>
    cases h
    exact .nil
  | some type =>
    obtain ⟨value, -, h⟩ := Outcome.bind_eq_ok.mp h
    cases value with
    | none =>
      cases h
      exact .nil
    | some v =>
      cases h
      have word : 'r' ∈ ("return " ++ v.display).toList := by
        rw [String.toList_append]
        exact List.mem_append_left _ (by decide)
      exact .line (Text.trim_ne_of_mem word (by decide) (by decide))

theorem method_uncommented (quiet : StartNoComment m g) (e : Element)
    (withoutBody withoutParameters : Bool) :
    RunAlike m Uncommented (method (g.commented true) e withoutBody withoutParameters)
      (method (g.commented false) e withoutBody withoutParameters) := by
  unfold method
  split
  · exact .pure .nil
  · refine .look fun before grown => .after (.lift _) fun parameters => .after (.lift _) fun doc => ?_
    refine .after (.mapM _ fun p _ => parameterText_keeps p) fun texts => .look fun between _ => ?_
    refine .after (result_keeps parameters) fun type => .check fun line hline => ?_
    have head := Documentation.block_uncommented g (.str doc)
    split
    · have other :=
        trim_ne_of_phrase hline "function" (by simp) 'f' (by decide) (by decide) (by decide)
      exact .pure (head.append (.line other))
    · refine .check fun stub hstub => .check fun returned hreturned => .pure ?_
      have opening : Uncommented [.line (line ++ " \x7b")] [.line (line ++ " \x7b")] :=
        .line (trim_ne_of_brace (by decide) line)
      have body := (Uncommented.indent.append (stubLine_uncommented quiet hstub)).append
        ((returnLines_uncommented hreturned).append .close)
      simpa [Declaration.close] using head.append (opening.append body)

end Member

namespace Declaration

variable {r : Repository}

theorem spaced_uncommented {scripts scripts' : List Script}
    (h : List.Forall₂ Uncommented scripts scripts') :
    Uncommented (spaced scripts) (spaced scripts') := by
  induction h with
  | nil => exact .nil
  | cons first _ ih => exact first.append (Uncommented.empty.append ih)

theorem forEach_uncommented {write write' : Element → Inspection Script}
    (h : ∀ e, RunAlike m Uncommented (write e) (write' e)) (ids : List ElementId) :
    RunAlike m Uncommented (forEach write ids) (forEach write' ids) := by
  refine RunAlike.bind (RunAlike.mapM (Q := Uncommented) fun id _ => ?_) fun _ _ hs =>
    .pure (spaced_uncommented hs)
  exact .look fun before _ => .after (.lift _) fun e => h e

theorem farVariable_uncommented (g : GosuSettings) (id near far : ElementId) :
    RunAlike m Uncommented (farVariable (g.commented true) id near far)
      (farVariable (g.commented false) id near far) := by
  refine .look fun before _ => .after (.lift _) fun reference => ?_
  split
  · exact .pure .nil
  · split
    · exact .throw _
    · split
      · exact forEach_uncommented (Member.variableFor_uncommented g) _
      · exact .pure .nil

theorem associationMembers_uncommented (g : GosuSettings) (id : ElementId) :
    RunAlike m Uncommented (associationMembers r (g.commented true) id)
      (associationMembers r (g.commented false) id) := by
  refine .look fun before _ => .after (.lift _) fun associations => ?_
  refine RunAlike.bind (RunAlike.mapM (Q := Uncommented) fun ends _ => ?_) fun _ _ hs =>
    .pure (.flatten hs)
  exact RunAlike.bind (farVariable_uncommented g id ends.1 ends.2) fun _ _ h =>
    RunAlike.bind (farVariable_uncommented g id ends.2 ends.1) fun _ _ h' => .pure (h.append h')

theorem members_uncommented (g : GosuSettings) (id : ElementId) (withAssociations : Bool) :
    RunAlike m Uncommented (members r (g.commented true) id withAssociations)
      (members r (g.commented false) id withAssociations) := by
  refine .look fun before _ => .after (.lift _) fun attributes => ?_
  refine (forEach_uncommented (Member.variableFor_uncommented g) _).bind fun _ _ ho => ?_
  dsimp only
  split
  · exact (associationMembers_uncommented g id).bind fun _ _ h => .pure (ho.append h)
  · exact (RunAlike.pure Uncommented.nil).bind fun _ _ h => .pure (ho.append h)

variable (quiet : StartNoComment m g)

include quiet

theorem operations_uncommented (id : ElementId) :
    RunAlike m Uncommented (operations (g.commented true) id) (operations (g.commented false) id) :=
  .look fun _ _ => .after (.lift _) fun _ =>
    forEach_uncommented (fun e => Member.method_uncommented quiet e _ _) _

theorem signatures_uncommented (id : ElementId) (withoutParameters : Bool) :
    RunAlike m Uncommented (signatures (g.commented true) id withoutParameters)
      (signatures (g.commented false) id withoutParameters) :=
  .look fun _ _ => .after (.lift _) fun _ =>
    forEach_uncommented (fun e => Member.method_uncommented quiet e _ _) _

theorem inheritedStubs_uncommented (superClass : Option ElementId) :
    RunAlike m Uncommented (inheritedStubs (g.commented true) superClass)
      (inheritedStubs (g.commented false) superClass) := by
  refine .look fun before _ => .after (.lift _) fun ids => ?_
  refine RunAlike.bind (RunAlike.mapM (Q := Uncommented) fun id _ => ?_) fun _ _ hs =>
    .pure (.flatten hs)
  refine .after (.lift _) fun e => ?_
  split
  · exact (Member.method_uncommented quiet e _ _).bind fun _ _ h => .pure (h.append .empty)
  · exact .pure .nil

theorem interfaceStubs_uncommented (interfaces : List (Option ElementId)) :
    RunAlike m Uncommented (interfaceStubs (g.commented true) interfaces)
      (interfaceStubs (g.commented false) interfaces) := by
  refine .look fun before _ => ?_
  refine RunAlike.bind (RunAlike.mapM (Q := Uncommented) fun interface _ => ?_) fun _ _ hs =>
    .pure (.flatten hs)
  exact .after (.lift _) fun ids =>
    forEach_uncommented (fun e => Member.method_uncommented quiet e _ _) _

omit quiet in
/-- A declaration of one line for its beginning. -/
theorem head_uncommented {modifiers related : List Value} {keyword : String} {e : Element}
    {opening : Script} (h : head modifiers keyword e related = .ok opening) :
    Uncommented opening opening := by
  obtain ⟨line, -, h⟩ := Outcome.bind_eq_ok.mp h
  cases h
  have first : Uncommented [.line (line ++ " \x7b")] [.line (line ++ " \x7b")] :=
    .line (trim_ne_of_brace (by decide) line)
  exact first.append (Uncommented.empty.append .indent)

theorem classScript_uncommented (id : ElementId) :
    RunAlike m Uncommented (classScript r (g.commented true) id)
      (classScript r (g.commented false) id) := by
  refine .look fun before _ => .check fun doc _ => .after (.lift _) fun modifiers =>
    .after (.lift _) fun superClasses => .after (.lift _) fun extended => ?_
  refine .after (.lift _) fun interfaces => .after (.lift _) fun implemented =>
    .check fun opening ho => ?_
  refine RunAlike.bind (members_uncommented g id true) fun _ _ hf => ?_
  refine RunAlike.bind (operations_uncommented quiet id) fun _ _ hm => ?_
  refine RunAlike.bind (inheritedStubs_uncommented quiet _) fun _ _ hi => ?_
  refine RunAlike.bind (interfaceStubs_uncommented quiet _) fun _ _ hs => .pure ?_
  have opened := (Documentation.block_uncommented g (.str doc)).append (head_uncommented ho)
  have built := (opened.append (Member.constructor_uncommented g (before.get id))).append .empty
  exact (((built.append hf).append hm).append hi).append hs

theorem enhancementScript_uncommented (id : ElementId) :
    RunAlike m Uncommented (enhancementScript r (g.commented true) id)
      (enhancementScript r (g.commented false) id) := by
  refine .look fun before _ => .check fun doc _ => .after (.lift _) fun superClasses =>
    .after (.lift _) fun extended => .check fun opening ho => ?_
  refine RunAlike.bind (members_uncommented g id true) fun _ _ hf => ?_
  refine RunAlike.bind (operations_uncommented quiet id) fun _ _ hm => .pure ?_
  have opened := (Documentation.block_uncommented g (.str doc)).append (head_uncommented ho)
  exact (opened.append hf).append hm

theorem interfaceScript_uncommented (id : ElementId) :
    RunAlike m Uncommented (interfaceScript r (g.commented true) id)
      (interfaceScript r (g.commented false) id) := by
  refine .look fun before _ => .after (.lift _) fun superClasses => .after (.lift _) fun extended =>
    .check fun opening ho => ?_
  refine RunAlike.bind (members_uncommented g id true) fun _ _ hf => ?_
  refine RunAlike.bind (signatures_uncommented quiet id false) fun _ _ hm => .pure ?_
  have opened := (Documentation.block_uncommented g (before.get id).documentation).append
    (head_uncommented ho)
  exact (opened.append hf).append hm

theorem annotationScript_uncommented (id : ElementId) :
    RunAlike m Uncommented (annotationScript r (g.commented true) id)
      (annotationScript r (g.commented false) id) := by
  refine .look fun before _ => .check fun doc _ => .after (.lift _) fun modifiers =>
    .check fun opening ho => ?_
  refine RunAlike.bind (members_uncommented g id false) fun _ _ hf => ?_
  refine RunAlike.bind (signatures_uncommented quiet id true) fun _ _ hm => ?_
  refine .after (.lift _) fun superClasses =>
    RunAlike.bind (inheritedStubs_uncommented quiet _) fun _ _ hi => .pure ?_
  have opened := (Documentation.block_uncommented g (.str doc)).append (head_uncommented ho)
  exact ((opened.append hf).append hm).append hi

theorem literalLines_uncommented {before : Model} (grown : m.GrowsTo before) {owner : ElementId}
    {ids : List ElementId} (own : ∀ l ∈ ids, l ∈ m.literalsOf owner) {lines : Script}
    (h : literalLines before ids = .ok lines) : Uncommented lines lines := by
  induction ids generalizing lines with
  | nil =>
    cases h
    exact .nil
  | cons id ids ih =>
    obtain ⟨first, others⟩ := List.forall_mem_cons.mp own
    obtain ⟨e, he, h⟩ := Outcome.bind_eq_ok.mp h
    split at h
    · rename_i s hs
      obtain ⟨rest, hrest, h⟩ := Outcome.bind_eq_ok.mp h
      cases h
      rw [grown.read_eq he] at hs
      have literal : Text.trim (if ids.isEmpty then s else s ++ ",") ≠ "/**" := by
        split
        · exact quiet.literals owner id first s hs
        · have comma : ',' ∈ (s ++ ",").toList := by
            rw [String.toList_append]
            exact List.mem_append_right _ (by decide)
          exact Text.trim_ne_of_mem comma (by decide) (by decide)
      exact (Uncommented.line literal).append (ih others hrest)
    · cases h

theorem enumerationScript_uncommented (id : ElementId) :
    RunAlike m Uncommented
      (get >>= fun before => liftM (enumerationScript before (g.commented true) id))
      (get >>= fun before => liftM (enumerationScript before (g.commented false) id)) := by
  refine .look fun before grown => .lift (.bind fun literals hliterals => .bind fun lines hlines => ?_)
  have own : ∀ l ∈ literals, l ∈ m.literalsOf id := by
    obtain rfl : before.literalsOf id = literals := Members.orNone_eq_ok hliterals
    exact grown.literalsOf_subset id
  have opening : Uncommented [.line ("enum " ++ before.display (before.get id).name ++ " \x7b")]
      [.line ("enum " ++ before.display (before.get id).name ++ " \x7b")] :=
    .line (trim_ne_of_brace (by decide) _)
  have opened := (Documentation.block_uncommented g (before.get id).documentation).append
    (opening.append .indent)
  exact (opened.append (literalLines_uncommented quiet grown own hlines)).append .close

/-- Every form but that of an enumeration is written around what is nested in it. -/
theorem scriptFor_uncommented (form : DeclarationForm) (id : ElementId)
    {nested nested' : Inspection Script} (hn : RunAlike m Uncommented nested nested') :
    RunAlike m Uncommented (scriptFor r (g.commented true) form id nested)
      (scriptFor r (g.commented false) form id nested') := by
  have around {own own' : Inspection Script} (ho : RunAlike m Uncommented own own') :
      RunAlike m Uncommented (around own nested) (around own' nested') :=
    ho.bind fun _ _ ho => hn.bind fun _ _ hn => .pure ((ho.append hn).append .close)
  cases form with
  | classForm => exact around (classScript_uncommented quiet id)
  | enhancement => exact around (enhancementScript_uncommented quiet id)
  | interface => exact around (interfaceScript_uncommented quiet id)
  | annotationForm => exact around (annotationScript_uncommented quiet id)
  | enumeration => exact enumerationScript_uncommented quiet id

theorem nestedScript_uncommented (fuel : Nat) (id : ElementId) :
    RunAlike m Uncommented (nestedScript r (g.commented true) fuel id)
      (nestedScript r (g.commented false) fuel id) := by
  induction fuel generalizing id with
  | zero => exact .throw _
  | succ fuel ih =>
    refine .look fun before _ => .after (.lift _) fun owned => ?_
    refine RunAlike.bind (RunAlike.mapM (Q := Uncommented) fun child _ => ?_) fun _ _ hs =>
      .pure (.flatten hs)
    refine .after (.lift _) fun e => ?_
    split
    · exact .pure .nil
    · split
      · exact .pure .nil
      · exact (scriptFor_uncommented quiet _ child (ih child)).bind fun _ _ hs =>
          .pure (hs.append .empty)

theorem script_runAlike (form : DeclarationForm) (id : ElementId) :
    RunAlike m (fun s s' => s.Balanced ∧ Uncommented s s') (script r (g.commented true) form id)
      (script r (g.commented false) form id) := by
  have alike : RunAlike m Uncommented (script r (g.commented true) form id)
      (script r (g.commented false) form id) :=
    .look fun _ _ => scriptFor_uncommented quiet form id (nestedScript_uncommented quiet _ id)
  exact alike.yielding (script_balanced r _ form id)

end Declaration

/-! ## Files -/

theorem Template.renderAll_ok {e : Escaping} {context : Entries} {pieces : List TemplatePiece}
    (h : ∀ piece ∈ pieces, ∃ text, renderPiece e context piece = .ok text) :
    ∃ text, renderAll e context pieces = .ok text := by
  induction pieces with
  | nil => exact ⟨"", rfl⟩
  | cons piece pieces ih =>
    obtain ⟨⟨first, hfirst⟩, others⟩ := List.forall_mem_cons.mp h
    obtain ⟨rest, hrest⟩ := ih others
    rw [renderAll, hfirst, hrest]
    exact ⟨_, rfl⟩

namespace SourceFile

/-- Neither header keeps a file from being made. -/
theorem compose_ok {template : Option Template} (shipped : template = none ∨ template = some header)
    (packageName : String) (uses : List Value) (body : String) :
    ∃ content, compose template packageName uses body = .ok content := by
  rcases shipped with rfl | rfl
  · exact ⟨_, rfl⟩
  · have lines (context : Entries) :
        uses.mapM (fun v => Template.renderAll .plain (("module", v) :: context)
          [.text "uses ", .output "module", .text ";\n"]) =
          .ok (uses.map fun v => "uses " ++ (v.display ++ (";\n" ++ ""))) :=
      Outcome.mapM_eq_ok.mpr (List.forall₂_map_right_iff.mpr (List.forall₂_same.mpr fun _ _ => rfl))
    refine Template.renderAll_ok fun piece hp => ?_
    simp only [header, List.mem_cons, List.not_mem_nil, or_false] at hp
    rcases hp with rfl | rfl | rfl | rfl | rfl
    · rw [Template.renderPiece]
      split <;> exact ⟨_, rfl⟩
    · exact ⟨_, rfl⟩
    · rw [Template.renderPiece]
      exact ⟨_, Outcome.bind_eq_ok.mpr ⟨uses, rfl, Outcome.bind_eq_ok.mpr ⟨_, lines _, rfl⟩⟩⟩
    · rw [Template.renderPiece]
      split <;> exact ⟨_, rfl⟩
    · exact ⟨_, rfl⟩

theorem endLines_alike (lineEnding : Value) (content content' : String) :
    Outcome.Alike (fun _ _ => True) (endLines lineEnding content) (endLines lineEnding content') := by
  unfold endLines
  split
  · trivial
  · trivial
  · rfl

/-- A file of a declaration can be made with comments if and only if it can be made without. -/
theorem render?_alike (quiet : StartNoComment m g) {template : Option Template}
    (shipped : template = none ∨ template = some header) (r : Repository) (root : Option ElementId)
    (id : ElementId) :
    RunAlike m (fun content content' => content.isSome = content'.isSome)
      (render? r (g.commented true) template root id)
      (render? r (g.commented false) template root id) := by
  have composed (packageName : String) (uses : List Value) (body body' : String) :
      Outcome.Alike (fun _ _ => True) (compose template packageName uses body)
        (compose template packageName uses body') := by
    obtain ⟨content, h⟩ := compose_ok shipped packageName uses body
    obtain ⟨content', h'⟩ := compose_ok shipped packageName uses body'
    rw [h, h']
    trivial
  refine .look fun before grown => ?_
  dsimp only
  split
  · exact .pure rfl
  · rename_i form _
    split
    · exact .pure rfl
    · refine .check fun indentText _ => ?_
      refine (Declaration.script_runAlike quiet form id).bind fun s s' ⟨balanced, without⟩ => ?_
      have written : Outcome.Alike (fun _ _ => True) ((Writer.new indentText).run s)
          ((Writer.new indentText).run s') := by
        rw [Writer.run_of_balanced balanced, Writer.run_of_balanced (without.balanced balanced)]
        trivial
      refine RunAlike.bind (.lift written) fun _ _ _ => ?_
      refine .after (.lift _) fun path => .after (.lift _) fun packageName => ?_
      refine RunAlike.bind (.lift (composed _ _ _ _)) fun content content' _ => ?_
      exact RunAlike.bind (.lift (endLines_alike _ content content')) fun _ _ _ => .pure rfl

end SourceFile

/-! ## Without comments -/

/-- An indentation is a tab or spaces. -/
theorem GosuSettings.blank_indentText {indentText : String} (h : g.indentText = .ok indentText) :
    ∀ c ∈ indentText.toList, Text.isBlank c = true := by
  unfold GosuSettings.indentText at h
  split at h
  · cases h
    intro c hc
    have tab : c = '\t' := List.mem_singleton.mp hc
    rw [tab]
    decide
  · unfold Settings.spaces at h
    split at h
    · cases h
    · split at h
      · cases h
      · cases h
        intro c hc
        rw [String.toList_ofList] at hc
        rw [List.eq_of_mem_replicate hc]
        decide

theorem Inspection.RunAlike.error_iff {α : Type} {R : α → α → Prop} {i i' : Inspection α}
    (h : RunAlike m R i i') (fault : Fault) :
    i.answerIn m = .error fault ↔ i'.answerIn m = .error fault := by
  obtain ⟨-, -, alike⟩ := h m (.refl m)
  rw [answerIn, answerIn]
  rcases hr : (i.runIn m).1 with failed | x <;>
    rcases hr' : (i'.runIn m).1 with failed' | y <;> rw [hr, hr'] at alike
  · rw [show failed = failed' from alike]
  · exact alike.elim
  · exact alike.elim
  · simp

theorem Inspection.RunAlike.exists_of_ok {α : Type} {R : α → α → Prop} {i i' : Inspection α}
    (h : RunAlike m R i i') {x : α} (hx : i.answerIn m = .ok x) :
    ∃ y, i'.answerIn m = .ok y ∧ R x y := by
  obtain ⟨-, -, alike⟩ := h m (.refl m)
  rw [show (i.runIn m).1 = .ok x from hx] at alike
  rcases hr : (i'.runIn m).1 with fault | y <;> rw [hr] at alike
  · exact alike.elim
  · exact ⟨y, hr, alike⟩

namespace Declaration

/-- **Settings that ask for no comments take the comments away and nothing else**: if neither the
statement for stubs nor the name of a literal looks like the start of a comment, then a declaration
without comments has the lines of the one with them after every block is deleted from a line `/**`
through the next line ` */`, in its layout and as they are written; and whatever keeps the declaration
or its file from being made under one of the settings keeps it from being made under the other. -/
theorem script_uncommented {r : Repository} (quiet : StartNoComment m g) (form : DeclarationForm)
    (id : ElementId) :
    (∀ s, (script r (g.commented true) form id).answerIn m = .ok s → ∃ s',
      (script r (g.commented false) form id).answerIn m = .ok s' ∧
      s'.layout = s.layout.withoutComments ∧
      ∀ indentText, g.indentText = .ok indentText → ∃ w w',
        (Writer.new indentText).run s = .ok w ∧ (Writer.new indentText).run s' = .ok w' ∧
        w.lines = s.layout.linesAt indentText 0 ∧ w'.lines = s'.layout.linesAt indentText 0 ∧
        w'.lines = Text.withoutComments w.lines) ∧
    (∀ fault, (script r (g.commented true) form id).answerIn m = .error fault ↔
      (script r (g.commented false) form id).answerIn m = .error fault) ∧
    ∀ template, template = none ∨ template = some SourceFile.header → ∀ root fault,
      (SourceFile.render? r (g.commented true) template root id).answerIn m = .error fault ↔
        (SourceFile.render? r (g.commented false) template root id).answerIn m = .error fault := by
  have alike := script_runAlike (r := r) quiet form id
  refine ⟨fun s h => ?_, alike.error_iff, fun template shipped root =>
    (SourceFile.render?_alike quiet shipped r root id).error_iff⟩
  obtain ⟨s', h', balanced, without⟩ := alike.exists_of_ok h
  refine ⟨s', h', without.layout_eq, fun indentText hi => ?_⟩
  have written := Writer.run_of_balanced balanced (.new indentText)
  have written' := Writer.run_of_balanced (without.balanced balanced) (.new indentText)
  exact ⟨_, _, written, written', rfl, rfl, without.linesAt_eq (g.blank_indentText hi) 0⟩

theorem script_uncommented_nestedModel : ∃ s s', StartNoComment nestedModel .standard ∧
    (script [] (GosuSettings.standard.commented true) .classForm 0).answerIn nestedModel = .ok s ∧
    (script [] (GosuSettings.standard.commented false) .classForm 0).answerIn nestedModel = .ok s' ∧
    s'.layout = s.layout.withoutComments ∧ s'.layout ≠ s.layout := by
  have quiet : StartNoComment nestedModel .standard := by
    refine ⟨?_, fun id => ?_⟩
    · rintro _ ⟨⟩
      decide
    · match id with
      | 0 | 1 | 2 | 3 | _ + 4 => nofun
  obtain ⟨s, h⟩ : ∃ s, (script [] (GosuSettings.standard.commented true) .classForm 0).answerIn
    nestedModel = .ok s := ⟨_, rfl⟩
  obtain ⟨s', h', layout, -⟩ := (script_uncommented quiet .classForm 0).1 s h
  refine ⟨s, s', quiet, h, h', layout, ?_⟩
  cases h
  cases h'
  decide

end Declaration

end GosuForge
