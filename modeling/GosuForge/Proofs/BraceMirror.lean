import GosuForge.Proofs.BraceFree
import GosuForge.Proofs.ClassFunctions
import GosuForge.Proofs.NestedDeclaration
import GosuForge.Proofs.Resolution

/-!
# Indentation mirrors braces

A declaration of texts without braces is indented just as its braces nest, whatever is nested in it.

* `Declaration.BraceFree`, `Model.Declares`: what a declaration shows, and what is declared in it;
* `Declaration.scriptFor_nests`, `Declaration.nestedScript_nests`: declarations are written with nested
  lines;
* `Declaration.script_mirrors`: each line of a declaration stands as deep as braces are open there.
-/

namespace GosuForge

open Inspection
open Script (Nests OpensBody)

/-- What is declared in a declaration, on any level, and the declaration itself. -/
def Model.Declares (m : Model) : ElementId → ElementId → Prop :=
  Relation.ReflTransGen fun id child => child ∈ m.ownedBy id ∧ Declaration.isDeclared m child = true

namespace Declaration

variable {r : Repository} {g : GosuSettings} {m : Model} {id : ElementId}

/-- The texts that a declaration shows hold no braces: those of the element, of its members and of the
functions that it has to implement. -/
structure BraceFree (r : Repository) (m : Model) (id : ElementId) : Prop where
  own : (m.get id).BraceFree m
  attributes : ∀ a ∈ m.attributesOf id, (m.get a).BraceFree m
  literals : ∀ l ∈ m.literalsOf id, (m.get l).BraceFree m
  operations : ∀ o ∈ m.operationsOf id, m.FunctionBraceFree (m.get o)
  ends : ∀ ends, r.associations m id = .ok ends → ∀ e ∈ ends,
    (m.get e.1).BraceFree m ∧ (m.get e.2).BraceFree m
  inherited : ∀ s others, r.superClasses m id = .ok (some s :: others) →
    ∀ o ∈ m.operationsOf s, m.FunctionBraceFree (m.get o)
  implemented : ∀ interfaces, r.superInterfaces m id = .ok interfaces → ∀ i, some i ∈ interfaces →
    ∀ o ∈ m.operationsOf i, m.FunctionBraceFree (m.get o)

/-! ## Parts of a body -/

theorem spaced_nests {scripts : List Script} (h : ∀ s ∈ scripts, Nests s) : Nests (spaced scripts) := by
  induction scripts with
  | nil => exact .nil
  | cons s scripts ih =>
    obtain ⟨first, others⟩ := List.forall_mem_cons.mp h
    exact first.append (Nests.empty.append (ih others))

theorem forEach_nests {write : Element → Inspection Script} {ids : List ElementId}
    (h : ∀ id ∈ ids, StaysIn m Nests (write (m.get id))) : StaysIn m Nests (forEach write ids) := by
  refine (StaysIn.mapM fun id hid => ?_).bind fun scripts hs => .pure (spaced_nests hs)
  exact .look (.after fun e he => Model.read_eq_ok he ▸ h id hid)

theorem farVariable_nests {near far : ElementId} (hf : (m.get far).BraceFree m) :
    StaysIn m Nests (farVariable g id near far) := by
  refine .look (.after fun reference _ => ?_)
  split
  · exact .pure .nil
  · split
    · exact .throw _
    · split
      · exact forEach_nests fun e he => by
          rw [List.mem_singleton.mp he]
          exact Member.variableFor_nests hf
      · exact .pure .nil

theorem associationMembers_nests (free : BraceFree r m id) :
    StaysIn m Nests (associationMembers r g id) := by
  refine .look (.after fun associations ha => ?_)
  refine (StaysIn.mapM fun ends hends => ?_).bind fun scripts hs => .pure (.flatten hs)
  obtain ⟨first, second⟩ := free.ends associations ha ends hends
  exact (farVariable_nests second).bind fun _ h => (farVariable_nests first).bind fun _ h' =>
    .pure (h.append h')

theorem members_nests (free : BraceFree r m id) (withAssociations : Bool) :
    StaysIn m Nests (members r g id withAssociations) := by
  refine .look (.after fun attributes ha => ?_)
  obtain rfl : m.attributesOf id = attributes := Members.given_eq_ok ha
  refine (forEach_nests fun a hmem => Member.variableFor_nests (free.attributes a hmem)).bind
    fun own ho => ?_
  dsimp only
  split
  · exact (associationMembers_nests free).bind fun _ h => .pure (ho.append h)
  · exact (StaysIn.pure Nests.nil).bind fun _ h => .pure (ho.append h)

/-- Functions for some operations. -/
theorem functions_nests (hg : g.BraceFree) {ids : List ElementId}
    (h : ∀ o ∈ ids, m.FunctionBraceFree (m.get o)) (withoutBody : Element → Bool)
    (withoutParameters : Bool) :
    StaysIn m Nests
      (forEach (fun e => Member.method g e (withoutBody e) withoutParameters) ids) :=
  forEach_nests fun o ho => Member.method_nests hg (h o ho) _ _

theorem operations_nests (hg : g.BraceFree) (free : BraceFree r m id) :
    StaysIn m Nests (operations g id) := by
  refine .look (.after fun ids hids => ?_)
  obtain rfl : m.operationsOf id = ids := Members.given_eq_ok hids
  exact functions_nests hg free.operations _ _

theorem signatures_nests (hg : g.BraceFree) (free : BraceFree r m id) (withoutParameters : Bool) :
    StaysIn m Nests (signatures g id withoutParameters) := by
  refine .look (.after fun ids hids => ?_)
  obtain rfl : m.operationsOf id = ids := Members.given_eq_ok hids
  exact functions_nests hg free.operations (fun _ => true) _

theorem inheritedStubs_nests (hg : g.BraceFree) (free : BraceFree r m id)
    {superClasses : List (Option ElementId)} (hs : r.superClasses m id = .ok superClasses) :
    StaysIn m Nests (inheritedStubs g (superClasses.head?.getD none)) := by
  refine .look (.after fun ids hids => ?_)
  have functions : ∀ o ∈ ids, m.FunctionBraceFree (m.get o) := by
    rcases superClasses with - | ⟨_ | s, others⟩
    · cases hids
      nofun
    · cases hids
      nofun
    · rw [← operationsOf_eq_ok hids]
      exact free.inherited s others hs
  refine StaysIn.bind (StaysIn.mapM (q := Nests) fun o ho => ?_) fun scripts h => .pure (.flatten h)
  refine .after fun e he => ?_
  rw [Model.read_eq_ok he]
  split
  · exact (Member.method_nests hg (functions o ho) _ _).bind fun lines h =>
      .pure (h.append .empty)
  · exact .pure .nil

theorem interfaceStubs_nests (hg : g.BraceFree) (free : BraceFree r m id)
    {interfaces : List (Option ElementId)} (hi : r.superInterfaces m id = .ok interfaces) :
    StaysIn m Nests (interfaceStubs g interfaces) := by
  refine .look ((StaysIn.mapM fun interface hmem => .after fun ids hids => ?_).bind fun scripts h =>
    .pure (.flatten h))
  refine functions_nests hg (fun o ho => ?_) (fun _ => false) _
  cases interface with
  | none =>
    cases hids
    cases ho
  | some i =>
    rw [← operationsOf_eq_ok hids] at ho
    exact free.implemented interfaces hi i hmem o ho

theorem literalLines_nests {ids : List ElementId} {lines : Script}
    (h : literalLines m ids = .ok lines) (free : ∀ l ∈ ids, (m.get l).BraceFree m) : Nests lines := by
  induction ids generalizing lines with
  | nil =>
    cases h
    exact .nil
  | cons id ids ih =>
    obtain ⟨first, others⟩ := List.forall_mem_cons.mp free
    obtain ⟨e, he, h⟩ := Outcome.bind_eq_ok.mp h
    have named := first.name
    rw [← Model.read_eq_ok he] at named
    split at h
    · rename_i s hs
      rw [hs] at named
      obtain ⟨rest, hrest, h⟩ := Outcome.bind_eq_ok.mp h
      cases h
      have comma : Text.BraceFree "," := by decide
      have literal : Text.EndsPlainly (if ids.isEmpty then s else s ++ ",") := by
        split
        · exact named.endsPlainly
        · exact (Text.BraceFree.append named comma).endsPlainly
      exact literal.nests.append (ih hrest others)
    · cases h

/-! ## Whole declarations -/

theorem block_withAuthor_nests (hg : g.BraceFree) {e : Element} (he : e.BraceFree m) {doc : String}
    (h : Documentation.withAuthor g e = .ok doc) : Nests (Documentation.block g (.str doc)) :=
  Documentation.block_nests fun s same => by
    cases same
    exact Documentation.braceFree_of_withAuthor hg he h

theorem head_opensBody {modifiers related : List Value} {keyword : String} {e : Element}
    {opening : Script} (h : head modifiers keyword e related = .ok opening) {doc : Script}
    (hdoc : Nests doc) : OpensBody (doc ++ opening) := by
  obtain ⟨line, -, h⟩ := Outcome.bind_eq_ok.mp h
  cases h
  have opens : Text.OpensBrace " \x7b" := by decide
  exact ⟨doc, line ++ " \x7b", [], by simp, opens.append line, hdoc, .nil⟩

theorem classScript_opensBody (hg : g.BraceFree) (free : BraceFree r m id) :
    StaysIn m OpensBody (classScript r g id) := by
  refine .look (.after fun doc hdoc => .after fun modifiers _ => .after fun superClasses hs => ?_)
  refine .after fun extended _ => .after fun interfaces hi => .after fun implemented _ =>
    .after fun opening ho => ?_
  refine (members_nests free true).bind fun fields hf => (operations_nests hg free).bind fun _ hm => ?_
  refine (inheritedStubs_nests hg free hs).bind fun _ hi' =>
    (interfaceStubs_nests hg free hi).bind fun _ hs' => .pure ?_
  have opened := head_opensBody ho (block_withAuthor_nests hg free.own hdoc)
  have built := (opened.append (Member.constructor_nests g (m.get id))).append .empty
  exact (((built.append hf).append hm).append hi').append hs'

theorem enhancementScript_opensBody (hg : g.BraceFree) (free : BraceFree r m id) :
    StaysIn m OpensBody (enhancementScript r g id) := by
  refine .look (.after fun doc hdoc => .after fun superClasses _ => .after fun extended _ =>
    .after fun opening ho => ?_)
  refine (members_nests free true).bind fun fields hf => (operations_nests hg free).bind fun _ hm =>
    .pure ?_
  exact ((head_opensBody ho (block_withAuthor_nests hg free.own hdoc)).append hf).append hm

theorem interfaceScript_opensBody (hg : g.BraceFree) (free : BraceFree r m id) :
    StaysIn m OpensBody (interfaceScript r g id) := by
  refine .look (.after fun superClasses _ => .after fun extended _ => .after fun opening ho => ?_)
  refine (members_nests free true).bind fun fields hf =>
    (signatures_nests hg free false).bind fun _ hm => .pure ?_
  have doc := Documentation.block_nests (g := g) (braceFree_documentation free.own)
  exact ((head_opensBody ho doc).append hf).append hm

theorem annotationScript_opensBody (hg : g.BraceFree) (free : BraceFree r m id) :
    StaysIn m OpensBody (annotationScript r g id) := by
  refine .look (.after fun doc hdoc => .after fun modifiers _ => .after fun opening ho => ?_)
  refine (members_nests free false).bind fun fields hf =>
    (signatures_nests hg free true).bind fun _ hm => .after fun superClasses hs =>
    (inheritedStubs_nests hg free hs).bind fun _ hi => .pure ?_
  exact (((head_opensBody ho (block_withAuthor_nests hg free.own hdoc)).append hf).append hm).append hi

theorem enumerationScript_nests (free : BraceFree r m id) {s : Script}
    (h : enumerationScript m g id = .ok s) : Nests s := by
  obtain ⟨literals, hl, h⟩ := Outcome.bind_eq_ok.mp h
  obtain ⟨lines, hlines, h⟩ := Outcome.bind_eq_ok.mp h
  cases h
  obtain rfl : m.literalsOf id = literals := Members.orNone_eq_ok hl
  have doc := Documentation.block_nests (g := g) (braceFree_documentation free.own)
  have opens : Text.OpensBrace " \x7b" := by decide
  have body := (literalLines_nests hlines free.literals).body
    (opens.append ("enum " ++ m.display (m.get id).name))
  simpa [close, Text.closingBrace] using doc.append body

/-- Every form is written around what is nested in it, or without that. -/
theorem scriptFor_nests (hg : g.BraceFree) (free : BraceFree r m id) (form : DeclarationForm)
    {nested : Inspection Script} (hn : StaysIn m Nests nested) :
    StaysIn m Nests (scriptFor r g form id nested) := by
  have around {own : Inspection Script} (ho : StaysIn m OpensBody own) :
      StaysIn m Nests (around own nested) :=
    ho.bind fun _ ho => hn.bind fun _ hn => .pure (ho.append hn).closed
  cases form with
  | classForm => exact around (classScript_opensBody hg free)
  | enhancement => exact around (enhancementScript_opensBody hg free)
  | interface => exact around (interfaceScript_opensBody hg free)
  | annotationForm => exact around (annotationScript_opensBody hg free)
  | enumeration => exact .look (.lift fun _ => enumerationScript_nests free)

/-- What is nested in an element, on any level. -/
theorem nestedScript_nests (hg : g.BraceFree) (fuel : Nat) {id : ElementId}
    (free : ∀ d, m.Declares id d → BraceFree r m d) : StaysIn m Nests (nestedScript r g fuel id) := by
  induction fuel generalizing id with
  | zero => exact .throw _
  | succ fuel ih =>
    refine .look (.after fun owned ho => ?_)
    obtain rfl : m.ownedBy id = owned := Members.given_eq_ok ho
    refine StaysIn.bind (StaysIn.mapM (q := Nests) fun child hc => ?_) fun scripts h =>
      .pure (.flatten h)
    refine .after fun e he => ?_
    obtain rfl := Model.read_eq_ok he
    split
    · exact .pure .nil
    · rename_i form hform
      split
      · exact .pure .nil
      · rename_i named
        have declared : isDeclared m child = true := by simpa [isDeclared, hform] using named
        have inner (d : ElementId) (hd : m.Declares child d) : BraceFree r m d :=
          free d (hd.head ⟨hc, declared⟩)
        refine (scriptFor_nests hg (inner child .refl) form (ih inner)).bind fun s hs => .pure ?_
        exact hs.append .empty

/-- **Indentation mirrors braces.** If the texts of a declaration and of those nested in it hold no
braces, then its braces are in nesting order; each line that is not empty is as many levels deep as
lines before it open a brace, less those up to it that close one; this is never negative; and in the end
all braces are closed. -/
theorem script_mirrors (hg : g.BraceFree) {form : DeclarationForm} {s : Script}
    (h : (script r g form id).answerIn m = .ok s)
    (free : ∀ d, m.Declares id d → BraceFree r m d) :
    (∀ w : Writer, w.run s =
      .ok { w with lines := w.lines ++ s.layout.linesAt w.indentText w.depth }) ∧
    s.layout.Nested 0 ∧
    (∀ before k text after, s.layout = before ++ (k, text) :: after →
      Layout.closers (before ++ [(k, text)]) ≤ Layout.openers before ∧
      (text ≠ "" → k = Layout.openers before - Layout.closers (before ++ [(k, text)]))) ∧
    s.layout.openers = s.layout.closers := by
  have nests : Nests s := by
    have written : StaysIn m Nests (script r g form id) :=
      .look (scriptFor_nests hg (free id .refl) form (nestedScript_nests hg _ free))
    exact (written s _ (Prod.ext h rfl)).1
  have nested : s.layout.Nested 0 := (nests 0).2
  have balanced := (script_balanced r g form id).holds h
  refine ⟨Writer.run_of_balanced balanced, nested, fun before k text after e => ?_,
    nested.openers_eq_closers⟩
  obtain ⟨bound, stands⟩ := nested.standsAfter e
  rw [Nat.zero_add] at bound stands
  exact ⟨bound, fun some => Nat.eq_sub_of_add_eq (stands some)⟩

/-! ## A class with nested declarations -/

theorem braceFree_nestedModel (d : ElementId) : BraceFree [] nestedModel d := by
  have other : (default : Element).BraceFree nestedModel :=
    ⟨by decide, by decide, by decide, by decide, nofun⟩
  have own : (nestedModel.get d).BraceFree nestedModel := by
    match d with
    | 0 | 1 | 2 | 3 => exact ⟨by decide, by decide, by decide, by decide, nofun⟩
    | _ + 4 => exact other
  refine ⟨own, ?_, ?_, ?_, ?_, ?_, ?_⟩
  · match d with
    | 0 | 1 | 2 | 3 | _ + 4 => nofun
  · match d with
    | 0 | 1 | 2 | 3 | _ + 4 => nofun
  · match d with
    | 0 | 1 | 2 | 3 | _ + 4 => nofun
  · rintro _ ⟨⟩
    nofun
  · nofun
  · rintro _ ⟨⟩
    nofun

theorem script_mirrors_nestedModel : ∃ s,
    GosuSettings.standard.BraceFree ∧ (∀ d, nestedModel.Declares 0 d → BraceFree [] nestedModel d) ∧
    (script [] .standard .classForm 0).answerIn nestedModel = .ok s ∧
    s.layout.Nested 0 ∧ s.layout.openers = s.layout.closers := by
  obtain ⟨s, h⟩ : ∃ s, (script [] .standard .classForm 0).answerIn nestedModel = .ok s := ⟨_, rfl⟩
  have settings : GosuSettings.standard.BraceFree := ⟨by decide, by decide⟩
  have free (d : ElementId) (_ : nestedModel.Declares 0 d) := braceFree_nestedModel d
  obtain ⟨-, nested, -, balanced⟩ := script_mirrors settings h free
  exact ⟨s, settings, free, h, nested, balanced⟩

end Declaration

end GosuForge
