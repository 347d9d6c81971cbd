import GosuForge.Proofs.Ancestry
import GosuForge.Proofs.ClassFunctions
import GosuForge.Proofs.Repository
import GosuForge.Proofs.Run

/-!
# What a run reads of the relationships

Of all relationships a run reads only those at the classifiers of its tree, and of these only what
the form of a classifier asks for.

* `Inspection.Agree`: inspections that end alike in a model;
* `Repository.SaysAlike`: what two repositories say of a classifier, as far as its form reads it;
* `Workbench.run_incident`: runs on repositories that say alike of all classifiers of a tree do the
  same, among them runs with relationships of another order or with unrelated ones in between.
-/

namespace GosuForge

namespace Inspection

variable {α β γ : Type} {m : Model}

/-- Both answer the same in a model, and leave the same model behind. -/
def Agree (m : Model) (i i' : Inspection α) : Prop := i.runIn m = i'.runIn m

namespace Agree

theorem get {f f' : Model → Inspection β} (h : Agree m (f m) (f' m)) :
    Agree m (get >>= f) (get >>= f') := h

theorem bind (plain : m.PlainlyNamed) {i i' : Inspection α} {f f' : α → Inspection β}
    (hi : Keeps i) (h : Agree m i i') (hf : ∀ x, Agree m (f x) (f' x)) :
    Agree m (i >>= f) (i' >>= f') := by
  unfold Agree at h hf ⊢
  rw [runIn_bind, runIn_bind, ← h, hi.runIn_eq plain]
  cases i.answerIn m with
  | error fault => rfl
  | ok x => exact hf x

/-- What follows the same first step. -/
theorem after (plain : m.PlainlyNamed) {i : Inspection α} {f f' : α → Inspection β}
    (hi : Keeps i) (hf : ∀ x, Agree m (f x) (f' x)) : Agree m (i >>= f) (i >>= f') :=
  bind plain hi rfl hf

/-- What follows outcomes that are the same as far as they are looked at. -/
theorem outcome {x x' : Except Fault α} (view : α → γ) (h : x.map view = x'.map view)
    {f f' : α → Inspection β} (hf : ∀ a a', view a = view a' → Agree m (f a) (f' a')) :
    Agree m (liftM x >>= f) (liftM x' >>= f') := by
  unfold Agree at hf ⊢
  rw [runIn_bind, runIn_bind, runIn_lift, runIn_lift]
  cases x with
  | error fault =>
    cases x' with
    | error fault' =>
      cases h
      rfl
    | ok a' => cases h
  | ok a =>
    cases x' with
    | error fault' => cases h
    | ok a' =>
      have same : view a = view a' := Except.ok.inj h
      exact hf a a' same

/-- What follows an outcome, for the answer that it is known to be. -/
theorem given {x : Except Fault α} {f f' : α → Inspection β}
    (hf : ∀ a, x = .ok a → Agree m (f a) (f' a)) : Agree m (liftM x >>= f) (liftM x >>= f') := by
  cases x with
  | error fault => rfl
  | ok a => exact hf a rfl

theorem mapM (plain : m.PlainlyNamed) {f f' : α → Inspection β} {xs : List α}
    (keeps : ∀ x ∈ xs, Keeps (f x)) (h : ∀ x ∈ xs, Agree m (f x) (f' x)) :
    Agree m (xs.mapM f) (xs.mapM f') := by
  induction xs with
  | nil => rfl
  | cons x xs ih =>
    obtain ⟨kx, kxs⟩ := List.forall_mem_cons.mp keeps
    obtain ⟨hx, hxs⟩ := List.forall_mem_cons.mp h
    rw [List.mapM_cons, List.mapM_cons]
    refine bind plain kx hx fun y => ?_
    exact bind plain (.mapM xs kxs) (ih kxs hxs) fun ys => rfl

end Agree

end Inspection

namespace Repository

/-- What two repositories say of an element is the same as far as a declaration in a form reads it. A
class, an enhancement and an annotation look at one superclass only. -/
def SaysAlike (m : Model) (id : ElementId) (r r' : Repository) : DeclarationForm → Prop
  | .classForm =>
    r.associations m id = r'.associations m id ∧
      r.superInterfaces m id = r'.superInterfaces m id ∧
      (r.superClasses m id).map List.head? = (r'.superClasses m id).map List.head?
  | .enhancement =>
    r.associations m id = r'.associations m id ∧
      (r.superClasses m id).map List.head? = (r'.superClasses m id).map List.head?
  | .interface =>
    r.associations m id = r'.associations m id ∧ r.superClasses m id = r'.superClasses m id
  | .annotationForm =>
    (r.superClasses m id).map List.head? = (r'.superClasses m id).map List.head?
  | .enumeration => True

/-- Two repositories say alike of all classifiers in the tree of an element. -/
def SayAlikeBelow (m : Model) (root : ElementId) (r r' : Repository) : Prop :=
  ∀ id, m.Below root id → ∀ form, DeclarationForm.of? (m.get id) = some form →
    SaysAlike m id r r' form

end Repository

/-- The relationship involves no classifier in the tree of an element. -/
def Relationship.Unrelated (m : Model) (root : ElementId) (x : Relationship) : Prop :=
  ∀ id, m.Below root id → ∀ form, DeclarationForm.of? (m.get id) = some form →
    x.involves m id = .ok false

namespace Repository

/-- The relationships of each kind are the same, in the same order. -/
structure SameByKind (r r' : Repository) : Prop where
  associations : r.filter Relationship.isAssociation = r'.filter Relationship.isAssociation
  directed : ∀ kind, r.filter (Relationship.isDirected kind) = r'.filter (Relationship.isDirected kind)

variable {m : Model} {id root : ElementId} {r r' : Repository}

theorem saysAlike_of_eq (associations : r.associations m id = r'.associations m id)
    (targets : ∀ kind, r.targets m kind id = r'.targets m kind id) (form : DeclarationForm) :
    SaysAlike m id r r' form := by
  have superClasses : r.superClasses m id = r'.superClasses m id := targets .generalization
  cases form with
  | classForm => exact ⟨associations, targets .realization, by rw [superClasses]⟩
  | enhancement => exact ⟨associations, by rw [superClasses]⟩
  | interface => exact ⟨associations, superClasses⟩
  | annotationForm => exact congrArg (Except.map List.head?) superClasses
  | enumeration => trivial

theorem filterMap_endsAt? (r : Repository) (m : Model) (id : ElementId) :
    r.filterMap (Relationship.endsAt? m id) =
      (r.filter Relationship.isAssociation).filterMap (Relationship.endsAt? m id) := by
  rw [List.filterMap_filter]
  refine List.filterMap_congr fun x _ => ?_
  cases x <;> rfl

theorem filterMap_targetOf? (r : Repository) (kind : DirectedKind) (id : ElementId) :
    r.filterMap (targetOf? kind id) =
      (r.filter (Relationship.isDirected kind)).filterMap (targetOf? kind id) := by
  rw [List.filterMap_filter]
  refine List.filterMap_congr fun x _ => ?_
  cases x with
  | association name end1 end2 => rfl
  | directed k name source target =>
    by_cases hk : k = kind
    · simp [Relationship.isDirected, hk]
    · simp [Relationship.isDirected, targetOf?, hk]

/-- Directed relationships can always be asked for what they involve. -/
theorem answers_eq (r : Repository) (m : Model) (id : ElementId) :
    r.answers m id =
      (r.filter Relationship.isAssociation).all fun x => (x.involves m id).toBool := by
  rw [answers, List.all_filter]
  refine List.all_congr rfl fun x => ?_
  cases x <;> rfl

/-- Repositories in which only the order among kinds is another one say alike. -/
theorem SameByKind.sayAlikeBelow (h : SameByKind r r') : SayAlikeBelow m root r r' := by
  intro id _ form _
  have answers : r.answers m id = r'.answers m id := by
    rw [answers_eq, answers_eq, h.associations]
  have associations : r.associations m id = r'.associations m id := by
    rw [associations_eq, associations_eq, answers, filterMap_endsAt?, h.associations,
      ← filterMap_endsAt?]
  refine saysAlike_of_eq associations (fun kind => ?_) form
  rw [targets_eq, targets_eq, answers, filterMap_targetOf?, h.directed kind, ← filterMap_targetOf?]

/-- A relationship that involves no classifier of a tree adds nothing to what is said of them. -/
theorem sayAlikeBelow_insert {x : Relationship} (h : x.Unrelated m root)
    (before after : Repository) :
    SayAlikeBelow m root (before ++ x :: after) (before ++ after) := by
  intro id below form hf
  have apart : x.involves m id = .ok false := h id below form hf
  have answers : (before ++ x :: after : Repository).answers m id =
      (before ++ after : Repository).answers m id := by
    simp [Repository.answers, apart, Except.toBool]
  have noEnds : Relationship.endsAt? m id x = none := by
    cases x with
    | directed kind name source target => rfl
    | association name end1 end2 => simp [Relationship.endsAt?, apart, Outcome.isYes]
  have noTarget (kind : DirectedKind) : targetOf? kind id x = none := by
    cases ht : targetOf? kind id x with
    | none => rfl
    | some target =>
      have yes := Relationship.isYes_of_targetOf? (m := m) ht
      rw [apart] at yes
      cases yes
  refine saysAlike_of_eq ?_ (fun kind => ?_) form
  · rw [associations_eq, associations_eq, answers]
    simp [noEnds]
  · rw [targets_eq, targets_eq, answers]
    simp [noTarget kind]

end Repository

namespace Declaration

open Inspection

variable {m : Model} {r r' : Repository} {g : GosuSettings} {id : ElementId}

theorem firstTarget_of_head? {word : String} {targets targets' : List (Option ElementId)}
    (h : targets.head? = targets'.head?) :
    firstTarget m word targets = firstTarget m word targets' := by
  cases targets with
  | nil =>
    cases targets' with
    | nil => rfl
    | cons target' rest' => cases h
  | cons target rest =>
    cases targets' with
    | nil => cases h
    | cons target' rest' =>
      cases h
      rfl

theorem members_agree (plain : m.PlainlyNamed)
    (h : r.associations m id = r'.associations m id) (withAssociations : Bool) :
    Agree m (members r g id withAssociations) (members r' g id withAssociations) := by
  have others : Agree m (associationMembers r g id) (associationMembers r' g id) := by
    refine .get ?_
    rw [h]
    rfl
  refine .get ?_
  refine .after plain (.lift _) fun attributes => ?_
  refine .after plain (forEach_keeps (Member.variableFor_keeps g) _) fun own => ?_
  cases withAssociations with
  | false => rfl
  | true => exact .bind plain (associationMembers_keeps r g id) others fun _ => rfl

theorem classScript_agree (plain : m.PlainlyNamed)
    (h : Repository.SaysAlike m id r r' .classForm) :
    Agree m (classScript r g id) (classScript r' g id) := by
  obtain ⟨associations, interfaces, superClass⟩ := h
  refine .get ?_
  refine .after plain (.lift _) fun doc => .after plain (.lift _) fun modifiers => ?_
  refine .outcome List.head? superClass fun targets targets' same => ?_
  rw [firstTarget_of_head? same, interfaces, same]
  refine .after plain (.lift _) fun extended => .after plain (.lift _) fun interfaces => ?_
  refine .after plain (.lift _) fun implemented => .after plain (.lift _) fun opening => ?_
  exact .bind plain (members_keeps ..) (members_agree plain associations true) fun fields => rfl

theorem enhancementScript_agree (plain : m.PlainlyNamed)
    (h : Repository.SaysAlike m id r r' .enhancement) :
    Agree m (enhancementScript r g id) (enhancementScript r' g id) := by
  obtain ⟨associations, superClass⟩ := h
  refine .get ?_
  refine .after plain (.lift _) fun doc => ?_
  refine .outcome List.head? superClass fun targets targets' same => ?_
  rw [firstTarget_of_head? same]
  refine .after plain (.lift _) fun extended => .after plain (.lift _) fun opening => ?_
  exact .bind plain (members_keeps ..) (members_agree plain associations true) fun fields => rfl

theorem interfaceScript_agree (plain : m.PlainlyNamed)
    (h : Repository.SaysAlike m id r r' .interface) :
    Agree m (interfaceScript r g id) (interfaceScript r' g id) := by
  obtain ⟨associations, superClasses⟩ := h
  refine .get ?_
  rw [superClasses]
  refine .after plain (.lift _) fun targets => .after plain (.lift _) fun extended => ?_
  refine .after plain (.lift _) fun opening => ?_
  exact .bind plain (members_keeps ..) (members_agree plain associations true) fun fields => rfl

theorem annotationScript_agree (plain : m.PlainlyNamed)
    (h : Repository.SaysAlike m id r r' .annotationForm) :
    Agree m (annotationScript r g id) (annotationScript r' g id) := by
  refine .get ?_
  refine .after plain (.lift _) fun doc => .after plain (.lift _) fun modifiers => ?_
  refine .after plain (.lift _) fun opening => ?_
  -- Without associations the variables are the same whatever the repositories say.
  refine .after plain (members_keeps r g id false) fun fields => ?_
  refine .after plain (signatures_keeps ..) fun functions => ?_
  refine .outcome List.head? h fun targets targets' same => ?_
  rw [same]
  rfl

theorem scriptFor_agree (plain : m.PlainlyNamed) {form : DeclarationForm}
    (h : Repository.SaysAlike m id r r' form) {nested nested' : Inspection Script}
    (hn : Keeps nested) (same : Agree m nested nested') :
    Agree m (scriptFor r g form id nested) (scriptFor r' g form id nested') := by
  have around {own own' : Inspection Script} (ho : Keeps own) (h : Agree m own own') :
      Agree m (around own nested) (around own' nested') :=
    .bind plain ho h fun _ => .bind plain hn same fun _ => rfl
  cases form with
  | classForm => exact around (classScript_keeps r g id) (classScript_agree plain h)
  | enhancement => exact around (enhancementScript_keeps r g id) (enhancementScript_agree plain h)
  | interface => exact around (interfaceScript_keeps r g id) (interfaceScript_agree plain h)
  | annotationForm => exact around (annotationScript_keeps r g id) (annotationScript_agree plain h)
  | enumeration => rfl

theorem ownedScript_agree (plain : m.PlainlyNamed) {child : ElementId}
    (h : ∀ form, DeclarationForm.of? (m.get child) = some form →
      Repository.SaysAlike m child r r' form)
    {nested nested' : Inspection Script} (hn : Keeps nested) (same : Agree m nested nested') :
    Agree m (ownedScript r g m child nested) (ownedScript r' g m child nested') := by
  refine .given fun e he => ?_
  obtain rfl := Model.read_eq_ok he
  cases hf : DeclarationForm.of? (m.get child) with
  | none => rfl
  | some form =>
    dsimp only
    split
    · rfl
    · exact .bind plain (scriptFor_keeps r g form child hn)
        (scriptFor_agree plain (h form hf) hn same) fun script => rfl

/-- The induction is on the depth: what an element owns is below the root if the element is. -/
theorem nestedScript_agree (plain : m.PlainlyNamed) {root : ElementId}
    (h : Repository.SayAlikeBelow m root r r') (fuel : Nat) (below : m.Below root id) :
    Agree m (nestedScript r g fuel id) (nestedScript r' g fuel id) := by
  induction fuel generalizing id with
  | zero => rfl
  | succ fuel ih =>
    refine .get (.given fun owned howned => ?_)
    have belowChild (child : ElementId) (hc : child ∈ owned) : m.Below root child :=
      below.tail (Model.ownedBy_of_given howned ▸ hc)
    have keeps (r : Repository) (child : ElementId) :
        Keeps (ownedScript r g m child (nestedScript r g fuel child)) :=
      ownedScript_keeps r g m child (nestedScript_keeps r g fuel child)
    have children : Agree m
        (owned.mapM fun child => ownedScript r g m child (nestedScript r g fuel child))
        (owned.mapM fun child => ownedScript r' g m child (nestedScript r' g fuel child)) := by
      refine .mapM plain (fun child _ => keeps r child) fun child hc => ?_
      exact ownedScript_agree plain (h child (belowChild child hc))
        (nestedScript_keeps r g fuel child) (ih (belowChild child hc))
    exact .bind plain (.mapM _ fun child _ => keeps r child) children fun scripts => rfl

theorem script_agree (plain : m.PlainlyNamed) {root : ElementId}
    (h : Repository.SayAlikeBelow m root r r') (below : m.Below root id) {form : DeclarationForm}
    (hf : DeclarationForm.of? (m.get id) = some form) :
    Agree m (script r g form id) (script r' g form id) :=
  .get (scriptFor_agree plain (h id below form hf) (nestedScript_keeps r g _ id)
    (nestedScript_agree plain h _ below))

end Declaration

namespace Plan

open Inspection

variable {m : Model} {r r' : Repository} {root : ElementId}

theorem render?_agree (plain : m.PlainlyNamed) (h : Repository.SayAlikeBelow m root r r')
    (g : GosuSettings) (template : Option Template) (top : Option ElementId) {id : ElementId}
    (below : m.Below root id) :
    Agree m (SourceFile.render? r g template top id) (SourceFile.render? r' g template top id) := by
  refine .get ?_
  cases hf : DeclarationForm.of? (m.get id) with
  | none =>
    simp only [hf]
    rfl
  | some form =>
    simp only [hf]
    by_cases unnamed : (!(m.get id).isNamed) = true
    · rw [if_pos unnamed, if_pos unnamed]
      rfl
    · rw [if_neg unnamed, if_neg unnamed]
      refine .after plain (.lift _) fun indentText => ?_
      exact .bind plain (Declaration.script_keeps r g form id)
        (Declaration.script_agree plain h below hf) fun script => rfl

theorem declarationSteps_eq (plain : m.PlainlyNamed) (h : Repository.SayAlikeBelow m root r r')
    (g : Generator) (top : Option ElementId) (path : Path) {id : ElementId}
    (below : m.Below root id) :
    declarationSteps g r top path m id = declarationSteps g r' top path m id := by
  have agree : Agree m (declarationStep? g r top path id) (declarationStep? g r' top path id) :=
    .bind plain (render?_keeps r g.settings g.header top id)
      (render?_agree plain h g.settings g.header top below) fun content => rfl
  rw [declarationSteps, declarationSteps, agree]

/-- Plans for the parts of a list that leave the model as it is. -/
theorem chain_congr {plan plan' : Model → ElementId → Plan} {ids : List ElementId}
    (after : ∀ id ∈ ids, ∀ planned ∈ plan m id, planned.after = m)
    (h : ∀ id ∈ ids, plan m id = plan' m id) : chain plan m ids = chain plan' m ids := by
  induction ids with
  | nil => rfl
  | cons id rest ih =>
    obtain ⟨hafter, hrestAfter⟩ := List.forall_mem_cons.mp after
    obtain ⟨hid, hrest⟩ := List.forall_mem_cons.mp h
    have ih := ih hrestAfter hrest
    rw [chain, chain, ← hid]
    cases hl : (plan m id).getLast? with
    | none => exact ih
    | some last =>
      have hm : last.after = m := hafter last (List.mem_of_getLast? hl)
      obtain ⟨fault | step, after⟩ := last
      · rfl
      · cases hm
        simp only [ih]

theorem walk_congr (plain : m.PlainlyNamed) (h : Repository.SayAlikeBelow m root r r')
    (g : Generator) (top : Option ElementId) (fuel : Nat) (path : Path) {id : ElementId}
    (below : m.Below root id) : walk g r top fuel path m id = walk g r' top fuel path m id := by
  induction fuel generalizing path id with
  | zero => rfl
  | succ fuel ih =>
    rw [walk, walk, declarationSteps_eq plain h g top path below]
    cases he : m.read id with
    | error fault => rfl
    | ok e =>
      obtain rfl := Model.read_eq_ok he
      cases howned : Members.given (m.get id).owned? with
      | error fault => simp only [howned]
      | ok owned =>
        have parts (path : Path) :
            chain (walk g r top fuel path) m owned = chain (walk g r' top fuel path) m owned := by
          refine chain_congr (fun child _ planned hp => after_of_mem_walk plain hp) fun child hc => ?_
          exact ih path (below.tail (Model.ownedBy_of_given howned ▸ hc))
        simp only [howned, parts]

end Plan

namespace Workbench

variable {σ : Type}

theorem run_congr (w : Workbench) {m : Model} (plain : m.PlainlyNamed) {r r' : Repository}
    {root : ElementId} (h : Repository.SayAlikeBelow m root r r') (path : Path)
    (storage : Storage σ) (state : σ) :
    w.run ⟨m, r⟩ root path storage state = w.run ⟨m, r'⟩ root path storage state := by
  have same : w.plan ⟨m, r⟩ root path = w.plan ⟨m, r'⟩ root path :=
    Plan.walk_congr plain h w.generator (some root) m.depth path .refl
  rw [run_eq, run_eq, same]

/-- **A run reads only the incident relationships.** It goes the same way, with the same result and
the same state of the destination, for all repositories that say alike of the classifiers in the tree
of its root. So it does when relationships of different kinds change places, and when one is inserted
that involves none of these classifiers. -/
theorem run_incident (w : Workbench) {m : Model} (plain : m.PlainlyNamed) (r : Repository)
    (root : ElementId) (path : Path) (storage : Storage σ) (state : σ) :
    (∀ r', Repository.SayAlikeBelow m root r r' →
      w.run ⟨m, r⟩ root path storage state = w.run ⟨m, r'⟩ root path storage state) ∧
    (∀ r', Repository.SameByKind r r' →
      w.run ⟨m, r⟩ root path storage state = w.run ⟨m, r'⟩ root path storage state) ∧
    ∀ before after x, r = before ++ after → Relationship.Unrelated m root x →
      w.run ⟨m, r⟩ root path storage state =
        w.run ⟨m, before ++ x :: after⟩ root path storage state := by
  refine ⟨fun r' h => w.run_congr plain h path storage state, fun r' h => ?_, ?_⟩
  · exact w.run_congr plain h.sayAlikeBelow path storage state
  · rintro before after x rfl apart
    exact (w.run_congr plain (Repository.sayAlikeBelow_insert apart before after) path storage
      state).symm

end Workbench

/-! ## A class with relationships that are read and others that are not -/

/-- A package with a class, its superclass and its interface. The class owns another one that an
association leads to; a last one stands outside. -/
def garage : Model :=
  ⟨#[.newNamed "garage" none (.package [1, 2, 3]),
     .newNamed "Car" (some 0) (.classifier { Classifier.new .classSort with owned := [4] }),
     .newNamed "Vehicle" (some 0) (.classifier (.new .classSort)),
     .newNamed "Movable" (some 0) (.classifier (.new .interface)),
     .newNamed "Wheel" (some 1) (.classifier (.new .classSort)),
     .newNamed "car" none (.associationEnd { Typing.untyped with type := .element 1 } (.bool true)),
     .newNamed "wheel" none
       (.associationEnd { Typing.untyped with type := .element 4 } (.bool true)),
     .newNamed "Engine" none (.classifier (.new .classSort))]⟩

theorem garage_plainlyNamed : garage.PlainlyNamed := by
  refine Model.plainlyNamed_of_texts fun e he => ?_
  simp only [garage, Array.mem_def, List.mem_cons, List.not_mem_nil, or_false] at he
  rcases he with rfl | rfl | rfl | rfl | rfl | rfl | rfl | rfl <;> exact ⟨_, rfl⟩

theorem garage_spans : garage.Spans 0 [0, 1, 4, 2, 3] where
  below := rfl
  once := by decide
  proper := by
    intro id hid
    simp only [List.mem_cons, List.not_mem_nil, or_false] at hid
    rcases hid with rfl | rfl | rfl | rfl | rfl <;> exact ⟨rfl, rfl, _, rfl⟩

namespace garage

/-- The class extends another class. -/
def extending : Relationship := .directed .generalization (.str "") (some 1) (some 2)

def realizing : Relationship := .directed .realization (.str "") (some 1) (some 3)

def having : Relationship := .association (.str "") 5 6

/-- A second superclass, which is not read. -/
def further : Relationship := .directed .generalization (.str "") (some 1) (some 4)

def outside : Relationship := .directed .realization (.str "") (some 7) (some 7)

/-- A run in an empty memory. -/
def runWith (r : Repository) : GenerationResult × Workbench × Model × Memory String :=
  Workbench.standard.run ⟨garage, r⟩ 0 .here Memory.storage .empty

end garage

open garage in
/-- Neither a second superclass is read, nor how the kinds alternate, nor a relationship outside. -/
theorem Workbench.run_incident_garage : garage.PlainlyNamed ∧
    Repository.SayAlikeBelow garage 0 [extending, realizing, having]
      [having, extending, further, realizing] ∧
    runWith [extending, realizing, having] = runWith [having, extending, further, realizing] ∧
    Repository.SameByKind [extending, realizing, having] [having, realizing, extending] ∧
    runWith [extending, realizing, having] = runWith [having, realizing, extending] ∧
    outside.Unrelated garage 0 ∧
    runWith [extending, realizing, having] = runWith [extending, outside, realizing, having] ∧
    (runWith [extending, realizing, having]).1.success = true := by
  obtain ⟨general, byKind, inserted⟩ := standard.run_incident garage_plainlyNamed
    [extending, realizing, having] 0 .here Memory.storage Memory.empty
  have alike : Repository.SayAlikeBelow garage 0 [extending, realizing, having]
      [having, extending, further, realizing] := by
    intro id below form hf
    have hid := garage_spans.mem_of_below below
    simp only [List.mem_cons, List.not_mem_nil, or_false] at hid
    rcases hid with rfl | rfl | rfl | rfl | rfl <;> cases hf
    · exact ⟨rfl, rfl, rfl⟩
    · exact ⟨rfl, rfl, rfl⟩
    · exact ⟨rfl, rfl, rfl⟩
    · exact ⟨rfl, rfl⟩
  have sameKinds : Repository.SameByKind [extending, realizing, having]
      [having, realizing, extending] :=
    ⟨rfl, fun kind => by cases kind <;> rfl⟩
  have apart : outside.Unrelated garage 0 := by
    intro id below form hf
    have hid := garage_spans.mem_of_below below
    simp only [List.mem_cons, List.not_mem_nil, or_false] at hid
    rcases hid with rfl | rfl | rfl | rfl | rfl <;> rfl
  exact ⟨garage_plainlyNamed, alike, general _ alike, sameKinds, byKind _ sameKinds, apart,
    inserted [extending] [realizing, having] outside rfl apart, by decide +kernel⟩

end GosuForge
