import GosuForge.Proofs.Declaration
import GosuForge.Proofs.Journal
import GosuForge.Proofs.Outcome
import GosuForge.Proofs.Visit

/-!
# The plan along the visits

* `Visit.asks`: what is asked of a destination at a visit, or why nothing can be asked;
* `Plan.ofVisits`: what is asked visit by visit, up to the first that nothing can be asked for;
* `Plan.make_eq`: the plan of a run is that of its visits.
-/

namespace GosuForge

open Inspection

namespace Visit

/-- The directory that is made at the visit of a package. -/
def newDirectory? (m : Model) (v : Visit) : Option Path :=
  if (m.get v.id).isPackage then some (v.directory.join (m.get v.id).nameText) else none

/-- The file that is written at the visit of a declaration. -/
def newFile? (g : GosuSettings) (m : Model) (v : Visit) : Option Path :=
  if (DeclarationForm.of? (m.get v.id)).isSome then
    (SourceFile.fileName g (m.get v.id)).toOption.map v.directory.join
  else none

def asks (g : Generator) (r : Repository) (root : ElementId) (m : Model) (v : Visit) :
    Except Fault (Option Step) :=
  if (m.get v.id).isPackage then .ok (some (.directory (v.directory.join (m.get v.id).nameText)))
  else (Plan.declarationStep? g r (some root) v.directory v.id).answerIn m

/-- Why the declaration at a visit cannot be written. -/
def fault? (g : Generator) (r : Repository) (root : ElementId) (m : Model) (v : Visit) :
    Option Fault :=
  match (SourceFile.render? r g.settings g.header (some root) v.id).answerIn m with
  | .error fault => some fault
  | .ok _ => none

/-- The step that is asked for at a visit, if there is one. -/
def step? (asks : Visit → Except Fault (Option Step)) (v : Visit) : Option Step :=
  match asks v with
  | .ok step => step
  | .error _ => none

end Visit

namespace Plan

def ofVisits (asks : Visit → Except Fault (Option Step)) (m : Model) : List Visit → Plan
  | [] => []
  | v :: rest =>
    match asks v with
    | .error fault => [⟨.error fault, m⟩]
    | .ok none => ofVisits asks m rest
    | .ok (some step) => ⟨.ok step, m⟩ :: ofVisits asks m rest

section OfVisits

variable {asks : Visit → Except Fault (Option Step)} {m : Model}

theorem after_of_mem_ofVisits {visits : List Visit} {planned : PlannedStep}
    (h : planned ∈ ofVisits asks m visits) : planned.after = m := by
  induction visits with
  | nil => exact absurd h List.not_mem_nil
  | cons v rest ih =>
    rw [ofVisits] at h
    split at h
    · rw [List.mem_singleton.mp h]
    · exact ih h
    · rcases List.mem_cons.mp h with rfl | h
      · rfl
      · exact ih h

/-- Visits are asked for one after the other, unless a fault ends the first of them. -/
theorem ofVisits_append (visits visits' : List Visit) :
    ofVisits asks m (visits ++ visits') =
      match (ofVisits asks m visits).getLast? with
      | some ⟨.error _, _⟩ => ofVisits asks m visits
      | _ => ofVisits asks m visits ++ ofVisits asks m visits' := by
  induction visits with
  | nil => rfl
  | cons v rest ih =>
    rw [List.cons_append, ofVisits, ofVisits]
    split
    · rfl
    · exact ih
    · rw [ih, List.getLast?_cons]
      rcases (ofVisits asks m rest).getLast? with _ | ⟨fault | step, after⟩ <;> rfl

/-- Where each part of a plan is that of some visits, the whole is that of all. -/
theorem chain_eq {plan : Model → ElementId → Plan} {visits : ElementId → List Visit}
    {ids : List ElementId} (h : ∀ id ∈ ids, plan m id = ofVisits asks m (visits id)) :
    chain plan m ids = ofVisits asks m (ids.flatMap visits) := by
  induction ids with
  | nil => rfl
  | cons id rest ih =>
    obtain ⟨hid, hrest⟩ := List.forall_mem_cons.mp h
    rw [chain, hid, List.flatMap_cons, ofVisits_append]
    cases hl : (ofVisits asks m (visits id)).getLast? with
    | none =>
      rw [List.getLast?_eq_none_iff.mp hl]
      exact ih hrest
    | some last =>
      have ha := after_of_mem_ofVisits (List.mem_of_getLast? hl)
      obtain ⟨fault | step, after⟩ := last
      · rfl
      · cases ha
        simp only [ih hrest]

/-- What a plan asks for, and its end: all visits are asked for, or those before the first that
nothing can be asked for. -/
theorem ofVisits_cases (asks : Visit → Except Fault (Option Step)) (m : Model)
    (visits : List Visit) :
    ((∀ v ∈ visits, ∃ step, asks v = .ok step) ∧
        (ofVisits asks m visits).calls = visits.filterMap (Visit.step? asks) ∧
        (ofVisits asks m visits).ending = .ok ()) ∨
      ∃ before v after fault, visits = before ++ v :: after ∧
        (∀ u ∈ before, ∃ step, asks u = .ok step) ∧ asks v = .error fault ∧
        (ofVisits asks m visits).calls = before.filterMap (Visit.step? asks) ∧
        (ofVisits asks m visits).ending = .error fault := by
  induction visits with
  | nil => exact Or.inl ⟨fun v hv => absurd hv List.not_mem_nil, rfl, rfl⟩
  | cons v rest ih =>
    cases hv : asks v with
    | error fault =>
      refine Or.inr ⟨[], v, rest, fault, rfl, fun u hu => absurd hu List.not_mem_nil, hv, ?_⟩
      simp [ofVisits, hv, calls, ending]
    | ok step =>
      have hcalls : (ofVisits asks m (v :: rest)).calls =
          step.toList ++ (ofVisits asks m rest).calls := by
        cases step <;> simp [ofVisits, hv, calls]
      have hending : (ofVisits asks m (v :: rest)).ending = (ofVisits asks m rest).ending := by
        cases step <;> simp [ofVisits, hv, ending]
      have hstep (vs : List Visit) : (v :: vs).filterMap (Visit.step? asks) =
          step.toList ++ vs.filterMap (Visit.step? asks) := by
        cases step <;> simp [Visit.step?, hv]
      rw [hcalls, hending]
      rcases ih with ⟨hall, hc, he⟩ | ⟨before, u, after, fault, rfl, hall, hu, hc, he⟩
      · exact Or.inl ⟨List.forall_mem_cons.mpr ⟨⟨step, hv⟩, hall⟩, by rw [hc, hstep], he⟩
      · exact Or.inr ⟨v :: before, u, after, fault, rfl,
          List.forall_mem_cons.mpr ⟨⟨step, hv⟩, hall⟩, hu, by rw [hc, hstep], he⟩

end OfVisits

theorem render?_keeps (r : Repository) (g : GosuSettings) (template : Option Template)
    (root : Option ElementId) (id : ElementId) :
    Keeps (SourceFile.render? r g template root id) := by
  refine .bind .get fun m => ?_
  dsimp only
  split
  · exact .pure _
  · rename_i form _
    split
    · exact .pure _
    · refine .bind (.lift _) fun _ => .bind (Declaration.script_keeps r g form id) fun _ => ?_
      exact .bind (.lift _) fun _ => .bind (.lift _) fun _ => .bind (.lift _) fun _ =>
        .bind (.lift _) fun _ => .bind (.lift _) fun _ => .pure _

theorem declarationStep?_keeps (g : Generator) (r : Repository) (root : Option ElementId)
    (path : Path) (id : ElementId) : Keeps (declarationStep? g r root path id) := by
  refine .bind (render?_keeps r g.settings g.header root id) fun content => ?_
  cases content with
  | none => exact .pure _
  | some content => exact .bind .get fun m => .bind (.lift _) fun _ => .pure _

variable {m : Model}

/-- What is in a plan for the parts of a list is in the plan for one of them, where these plans leave
the model as it is. -/
theorem exists_of_mem_chain {plan : Model → ElementId → Plan} {ids : List ElementId}
    (after : ∀ id ∈ ids, ∀ planned ∈ plan m id, planned.after = m) {planned : PlannedStep}
    (hp : planned ∈ chain plan m ids) : ∃ id ∈ ids, planned ∈ plan m id := by
  induction ids with
  | nil => exact absurd hp List.not_mem_nil
  | cons id rest ih =>
    obtain ⟨hid, hrest⟩ := List.forall_mem_cons.mp after
    have further (hp : planned ∈ chain plan m rest) : ∃ id' ∈ id :: rest, planned ∈ plan m id' := by
      obtain ⟨id', hid', hp⟩ := ih hrest hp
      exact ⟨id', List.mem_cons_of_mem id hid', hp⟩
    rw [chain] at hp
    cases hl : (plan m id).getLast? with
    | none =>
      rw [hl] at hp
      exact further hp
    | some last =>
      have hm : last.after = m := hid last (List.mem_of_getLast? hl)
      obtain ⟨fault | step, next⟩ := last
      · rw [hl] at hp
        exact ⟨id, List.mem_cons_self, hp⟩
      · cases hm
        rw [hl] at hp
        rcases List.mem_append.mp hp with hp | hp
        · exact ⟨id, List.mem_cons_self, hp⟩
        · exact further hp

theorem after_of_mem_declarationSteps {g : Generator} {r : Repository} {root : Option ElementId}
    (plain : m.PlainlyNamed) {path : Path} {id : ElementId} {planned : PlannedStep}
    (h : planned ∈ declarationSteps g r root path m id) : planned.after = m := by
  rw [declarationSteps, (declarationStep?_keeps g r root path id).runIn_eq plain] at h
  rcases ha : (declarationStep? g r root path id).answerIn m with fault | _ | step <;> rw [ha] at h
  · rw [List.mem_singleton.mp h]
  · exact absurd h List.not_mem_nil
  · rw [List.mem_singleton.mp h]

/-- A plan on a model without lists as names leaves it as it is. -/
theorem after_of_mem_walk {g : Generator} {r : Repository} {root : Option ElementId}
    (plain : m.PlainlyNamed) {fuel : Nat} {directory : Path} {id : ElementId}
    {planned : PlannedStep} (h : planned ∈ walk g r root fuel directory m id) :
    planned.after = m := by
  induction fuel generalizing directory id planned with
  | zero =>
    rw [walk, List.mem_singleton] at h
    rw [h]
  | succ fuel ih =>
    rw [walk] at h
    split at h
    · rw [List.mem_singleton.mp h]
    · split at h
      · split at h
        · exact absurd h List.not_mem_nil
        · rw [List.mem_singleton.mp h]
      · split at h
        · split at h
          · rcases List.mem_cons.mp h with rfl | h
            · rfl
            · split at h
              · rw [List.mem_singleton.mp h]
              · obtain ⟨child, -, h⟩ := exists_of_mem_chain (fun _ _ _ => ih) h
                exact ih h
          · rw [List.mem_singleton.mp h]
        · exact after_of_mem_declarationSteps plain h

/-- The plan for an element is that of the visits below it. -/
theorem walk_eq (g : Generator) (r : Repository) (root : ElementId) (plain : m.PlainlyNamed)
    {fuel : Nat} {directory : Path} {id : ElementId} {ids : List ElementId}
    (hw : m.walk fuel id = (ids, none)) (proper : ∀ id ∈ ids, m.IsProper id) :
    walk g r (some root) fuel directory m id =
      ofVisits (Visit.asks g r root m) m (m.visits fuel directory id) := by
  induction fuel generalizing directory id ids with
  | zero => cases hw
  | succ fuel ih =>
    obtain ⟨⟨owned, ho⟩, hc, rfl⟩ := Model.walk_succ_eq.mp hw
    obtain ⟨hread, hkind, name, hname⟩ := proper id List.mem_cons_self
    rw [walk, hread, Model.visits]
    dsimp only
    by_cases hn : (m.get id).isNamed = true
    · simp only [hn, Bool.not_true, Bool.false_eq_true, if_false, if_true]
      by_cases hp : (m.get id).isPackage = true
      · have hgiven := Model.given_of_isPackage hp ho
        have htext : (m.get id).nameText = name := by rw [Element.nameText, hname]
        simp only [hp, if_true, hname, hgiven, ofVisits, Visit.asks, htext]
        congr 1
        refine chain_eq fun child hchild => ih (Prod.ext rfl (hc child hchild)) fun i hi => ?_
        exact proper i (List.mem_cons_of_mem _ (List.mem_flatMap.mpr ⟨child, hchild, hi⟩))
      · simp only [hp, if_false, ofVisits, Visit.asks, declarationSteps, Bool.false_eq_true,
          (declarationStep?_keeps g r (some root) directory id).runIn_eq plain]
        rcases (declarationStep? g r (some root) directory id).answerIn m with fault | _ | step <;>
          rfl
    · simp [hn, hkind, ofVisits]

theorem make_eq (g : Generator) {d : Design} {root : ElementId} {ids : List ElementId}
    (plain : d.model.PlainlyNamed) (spans : d.model.Spans root ids) (directory : Path) :
    make g d (some root) directory root =
      ofVisits (Visit.asks g d.relationships root d.model) d.model
        (d.model.visitsFrom root directory) :=
  walk_eq g d.relationships root plain spans.walk_eq spans.proper

theorem answerIn_declarationStep? (plain : m.PlainlyNamed) (g : Generator) (r : Repository)
    (root : Option ElementId) (path : Path) (id : ElementId) :
    (declarationStep? g r root path id).answerIn m =
      (SourceFile.render? r g.settings g.header root id).answerIn m >>= fun content =>
        match content with
        | none => .ok none
        | some content => (SourceFile.fileName g.settings (m.get id)).map fun name =>
            some (.file (path.join name) content) := by
  rw [declarationStep?, (render?_keeps ..).answerIn_bind plain]
  congr 1
  funext content
  cases content with
  | none => rfl
  | some content =>
    dsimp only
    rw [answerIn_get_bind, (Keeps.lift _).answerIn_bind plain, answerIn_lift]
    cases SourceFile.fileName g.settings (m.get id) <;> rfl

theorem render?_of_no_form {g : GosuSettings} {r : Repository} {template : Option Template}
    {root : Option ElementId} {id : ElementId} (h : DeclarationForm.of? (m.get id) = none) :
    (SourceFile.render? r g template root id).answerIn m = .ok none := by
  rw [SourceFile.render?, answerIn_get_bind]
  dsimp only
  rw [h]
  rfl

/-- A named element has a file if it has a form. -/
theorem isSome_of_render? {g : GosuSettings} {r : Repository} {template : Option Template}
    {root : Option ElementId} {id : ElementId} (named : (m.get id).isNamed = true)
    {content : Option String}
    (h : (SourceFile.render? r g template root id).answerIn m = .ok content) :
    content.isSome = (DeclarationForm.of? (m.get id)).isSome := by
  cases hf : DeclarationForm.of? (m.get id) with
  | none =>
    rw [render?_of_no_form hf] at h
    cases h
    rfl
  | some form =>
    rw [SourceFile.render?, answerIn_get_bind] at h
    simp only [hf, named, Bool.not_true, Bool.false_eq_true, if_false] at h
    refine Yields.holds (p := fun content : Option String => content.isSome = true) ?_ h
    exact .after fun _ => .after fun _ => .after fun _ => .after fun _ => .after fun _ =>
      .after fun _ => .after fun _ => .pure rfl

end Plan

namespace Visit

variable {g : Generator} {r : Repository} {root : ElementId} {m : Model} {v : Visit}

theorem isPackage_of_form (h : (DeclarationForm.of? (m.get v.id)).isSome = true) :
    (m.get v.id).isPackage = false := by
  rw [Option.isSome_iff_exists] at h
  obtain ⟨form, h⟩ := h
  rw [DeclarationForm.of?, Element.sort?] at h
  rw [Element.isPackage]
  split
  · rename_i hc
    rw [hc] at h
    cases h
  · rfl

/-- Nothing can be asked for only where a declaration cannot be written. -/
theorem fault?_of_asks_eq_error (plain : m.PlainlyNamed)
    (text : ∃ name, (m.get v.id).name = .str name) {fault : Fault}
    (h : v.asks g r root m = .error fault) : v.fault? g r root m = some fault := by
  obtain ⟨name, hname⟩ := text
  rw [asks] at h
  split at h
  · cases h
  · rw [Plan.answerIn_declarationStep? plain] at h
    rw [fault?]
    rcases hr : (SourceFile.render? r g.settings g.header (some root) v.id).answerIn m with
      other | _ | content <;> rw [hr] at h
    · cases h
      rfl
    · cases h
    · simp [bind, Except.bind, SourceFile.fileName, hname, Except.map] at h

theorem fault?_of_asks_eq_ok (plain : m.PlainlyNamed) {step : Option Step}
    (h : v.asks g r root m = .ok step) : v.fault? g r root m = none := by
  rw [fault?]
  rw [asks] at h
  split at h
  · rename_i hp
    have hf : DeclarationForm.of? (m.get v.id) = none := by
      by_contra hf
      rw [isPackage_of_form (Option.isSome_iff_ne_none.mpr hf)] at hp
      cases hp
    rw [Plan.render?_of_no_form hf]
  · rw [Plan.answerIn_declarationStep? plain, Outcome.bind_eq_ok] at h
    obtain ⟨content, hr, -⟩ := h
    rw [hr]

/-- What is asked for makes a directory for a package and a file for a declaration. -/
theorem asks_eq_ok (plain : m.PlainlyNamed) (named : (m.get v.id).isNamed = true)
    {step : Option Step} (h : v.asks g r root m = .ok step) :
    step.bind Step.directory? = v.newDirectory? m ∧
      step.bind Step.file? = v.newFile? g.settings m := by
  rw [asks] at h
  rw [newDirectory?, newFile?]
  split at h
  · rename_i hp
    cases h
    have hf : (DeclarationForm.of? (m.get v.id)).isSome = false := by
      by_contra hf
      simp [isPackage_of_form (Bool.not_eq_false _ ▸ hf)] at hp
    simp [hp, hf, Step.directory?, Step.file?]
  · rename_i hp
    rw [Plan.answerIn_declarationStep? plain, Outcome.bind_eq_ok] at h
    obtain ⟨content, hr, h⟩ := h
    rw [← Plan.isSome_of_render? named hr]
    cases content with
    | none =>
      cases h
      simp [hp]
    | some content =>
      obtain ⟨name, hname, rfl⟩ := Outcome.map_eq_ok.mp h
      simp [hp, hname, Step.directory?, Step.file?, Except.toOption]

/-- The text of a file is that of its declaration. -/
theorem content_of_asks (plain : m.PlainlyNamed) {path : Path} {content : String}
    (h : v.asks g r root m = .ok (some (.file path content))) :
    (SourceFile.render? r g.settings g.header (some root) v.id).answerIn m =
      .ok (some content) := by
  rw [asks] at h
  split at h
  · cases h
  · rw [Plan.answerIn_declarationStep? plain, Outcome.bind_eq_ok] at h
    obtain ⟨written, hr, h⟩ := h
    cases written with
    | none => cases h
    | some written =>
      obtain ⟨name, -, e⟩ := Outcome.map_eq_ok.mp h
      cases e
      exact hr

end Visit

end GosuForge
