import GosuForge.Proofs.Addition
import GosuForge.Proofs.Ancestry
import GosuForge.Proofs.Parents
import Mathlib.Data.List.Perm.Subperm

/-!
# Owners of added parts

Adding an element takes it out of no list. If it had an owner before, it stands in the lists of both
and has one of them as its parent; and nothing keeps an element from being added to itself or to an
element below it. So each call tells whether owners and parents still agree after it.

* `Acyclic`: relations without a way back, and how one more step keeps them so;
* `Model.OwnedOnce`: each element stands in one list once, whose owner is its parent;
* `Model.Climbs`, `Model.Unfolds`: the ways up from all elements end, and the walks down;
* `Model.ownersThroughout_of_fresh`: which calls keep each of these.
-/

namespace GosuForge

open Relation (TransGen ReflTransGen)

/-! ## Relations without a way back -/

/-- No way along the relation leads back to where it began. -/
def Acyclic {α : Type} (r : α → α → Prop) : Prop := ∀ x, ¬ TransGen r x x

namespace Acyclic

section

variable {α : Type} {r r' : α → α → Prop} {s t : α}

/-- With one more step from `s` to `t`, a way is an old one, or leads to `s` and goes on from `t`. -/
theorem transGen_or (more : ∀ x y, r' x y → r x y ∨ x = s ∧ y = t) {x y : α}
    (h : TransGen r' x y) : TransGen r x y ∨ ReflTransGen r x s ∧ ReflTransGen r t y := by
  induction h with
  | single first =>
    rcases more _ _ first with old | ⟨rfl, rfl⟩
    · exact .inl (.single old)
    · exact .inr ⟨.refl, .refl⟩
  | tail _ last ih =>
    rcases more _ _ last with old | ⟨rfl, rfl⟩
    · exact ih.imp (·.tail old) fun ⟨before, after⟩ => ⟨before, after.tail old⟩
    · exact .inr ⟨ih.elim (·.to_reflTransGen) (·.1), .refl⟩

theorem with_step (acyclic : Acyclic r) (more : ∀ x y, r' x y → r x y ∨ x = s ∧ y = t)
    (apart : ¬ ReflTransGen r t s) : Acyclic r' := by
  intro x around
  rcases transGen_or more around with old | ⟨before, after⟩
  · exact acyclic x old
  · exact apart (after.trans before)

/-- A way to `s` takes no step from `s`, so those may be others. -/
theorem way_kept (acyclic : Acyclic r) (kept : ∀ x y, r x y → x ≠ s → r' x y) {x : α}
    (way : ReflTransGen r x s) : ReflTransGen r' x s := by
  induction way using ReflTransGen.head_induction_on with
  | refl => exact .refl
  | @head x y first rest ih =>
    have other : x ≠ s := by
      rintro rfl
      exact acyclic x (.head' first rest)
    exact .head (kept x y first other) ih

/-- Both without a way back, a step from `s` to `t` closes none that leads from `t` to `s`. -/
theorem apart (acyclic : Acyclic r) (acyclic' : Acyclic r') (step : r' s t)
    (kept : ∀ x y, r x y → x ≠ s → r' x y) : ¬ ReflTransGen r t s :=
  fun way => acyclic' s (.head' step (acyclic.way_kept kept way))

end

/-- Ways from numbers below `n` have no more than `n` steps: `n` is enough for what each step uses. -/
theorem fuel_enough {r : Nat → Nat → Prop} {n : Nat} {P : Nat → Nat → Prop} (acyclic : Acyclic r)
    (below : ∀ x y, r x y → x < n)
    (step : ∀ fuel x, (∀ y, r x y → ∃ rest, fuel = rest + 1 ∧ P rest y) → P fuel x) (x : Nat) :
    P n x := by
  -- The numbers on the way to `x` are all different, so there are no more than `n`.
  suffices onWay : ∀ (fuel x : Nat) (way : List Nat), way.Nodup →
      (∀ w ∈ way, w < n ∧ TransGen r w x) → n ≤ fuel + way.length → P fuel x from
    onWay n x [] .nil (fun _ hw => absurd hw List.not_mem_nil) (Nat.le_add_right n 0)
  intro fuel
  induction fuel using Nat.strongRecOn with
  | ind fuel ih =>
    intro x way nodup passed long
    refine step fuel x fun y hy => ?_
    have nodup' : (x :: way).Nodup :=
      List.nodup_cons.mpr ⟨fun hx => acyclic x (passed x hx).2, nodup⟩
    have passed' : ∀ w ∈ x :: way, w < n ∧ TransGen r w y :=
      List.forall_mem_cons.mpr ⟨⟨below x y hy, .single hy⟩, fun w hw =>
        ⟨(passed w hw).1, (passed w hw).2.tail hy⟩⟩
    have fits : (x :: way).length ≤ (List.range n).length :=
      (List.subperm_of_subset nodup' fun w hw => List.mem_range.mpr (passed' w hw).1).length_le
    rw [List.length_range, List.length_cons] at fits
    refine ⟨fuel - 1, by omega, ih (fuel - 1) (by omega) y (x :: way) nodup' passed' ?_⟩
    rw [List.length_cons]
    omega

end Acyclic

namespace Model

variable {m m' : Model} {a : Addition} {id : ElementId}

/-- The element itself, and what is met on the way up from it. -/
def Under (m : Model) : ElementId → ElementId → Prop :=
  ReflTransGen fun id parent => (m.get id).parent = some parent

/-- From every element the way up ends at a root, and the ancestors are the way. -/
def Climbs (m : Model) : Prop := ∀ id, ∃ root, m.ClimbsTo root id (m.ancestors id)

/-- The walk over what is below an element ends for each of them. -/
def Unfolds (m : Model) : Prop := ∀ id, ∃ ids, m.elementsBelow id = .ok ids

/-- What stands in the lists of an owner stands there once and has that owner as its parent. -/
structure OwnedOnce (m : Model) : Prop where
  once : ∀ owner id, (m.partsOf owner).count id ≤ 1
  parent : ∀ owner, ∀ id ∈ m.partsOf owner, (m.get id).parent = some owner

/-! ## Ways up -/

theorem climbs_iff_acyclic :
    m.Climbs ↔ Acyclic fun id parent => (m.get id).parent = some parent := by
  constructor
  · intro climbs id around
    obtain ⟨root, way⟩ := climbs id
    generalize m.ancestors id = outer at way
    induction way with
    | root top =>
      obtain ⟨parent, first, -⟩ := TransGen.head'_iff.mp around
      rw [top] at first
      cases first
    | @step id parent outer up _ ih =>
      obtain ⟨next, first, rest⟩ := TransGen.head'_iff.mp around
      rw [up] at first
      cases first
      exact ih (.tail' rest up)
  · intro acyclic
    refine acyclic.fuel_enough (n := m.size) (P := fun fuel id =>
      ∃ root, m.ClimbsTo root id (m.ancestorsFrom (m.get id).parent fuel))
      (fun id parent up => lt_size_of_parent up) fun fuel id up => ?_
    cases top : (m.get id).parent with
    | none =>
      have nothing : m.ancestorsFrom none fuel = [] := by cases fuel <;> rfl
      rw [nothing]
      exact ⟨id, .root top⟩
    | some parent =>
      obtain ⟨rest, rfl, root, way⟩ := up parent top
      exact ⟨root, .step top way⟩

/-! ## Trees below -/

theorem unfolds_iff_acyclic (unaltered : m.Unaltered) :
    m.Unfolds ↔ Acyclic fun id child => child ∈ m.ownedBy id := by
  constructor
  · intro unfolds id around
    obtain ⟨ids, below⟩ := unfolds id
    have ends : (m.walk m.depth id).2 = none := congrArg Prod.snd (elementsBelow_eq_ok.mp below)
    clear below
    generalize m.depth = fuel at ends
    induction fuel generalizing id with
    | zero => cases ends
    | succ fuel ih =>
      obtain ⟨child, first, rest⟩ := TransGen.head'_iff.mp around
      obtain ⟨-, children, -⟩ := walk_succ_eq.mp (Prod.ext rfl ends)
      exact ih child (.tail' rest first) (children child first)
  · intro acyclic
    have owners (id child : ElementId) (owned : child ∈ m.ownedBy id) : id < m.size :=
      lt_size_of_takesParts (unaltered.takesParts_of_mem owned)
    have ends : ∀ id, (m.walk m.depth id).2 = none := by
      refine acyclic.fuel_enough (P := fun fuel id => (m.walk (fuel + 1) id).2 = none) owners
        fun fuel id children => ?_
      have given : ∃ owned, Members.orNone (m.get id).owned? = .ok owned := by
        rw [(unaltered id).owned?]
        cases (m.get id).content.list? "owned_elements" <;> exact ⟨_, rfl⟩
      refine congrArg Prod.snd (walk_succ_eq.mpr ⟨given, fun child hc => ?_, rfl⟩)
      obtain ⟨rest, rfl, ends⟩ := children child hc
      exact ends
    exact fun id => ⟨_, elementsBelow_eq_ok.mpr (Prod.ext rfl (ends id))⟩

/-! ## What one call does -/

theorem Linked.ownedOnce_iff (linked : m.Linked) (h : m.Added m' a) (owned : m.OwnedOnce) :
    m'.OwnedOnce ↔ (m.get a.child).parent = none := by
  constructor
  · intro owned'
    by_contra known
    obtain ⟨owner, parent⟩ := Option.ne_none_iff_exists'.mp known
    have listed := linked.listed a.child owner parent
    -- The owner before is the one that the call adds to, so its lists have the element twice.
    have same := owned'.parent owner a.child ((h.mem_partsOf linked.unaltered).mpr (.inl listed))
    rw [h.parent_eq, if_pos rfl] at same
    cases same
    have twice := owned'.once a.owner a.child
    rw [h.count_partsOf linked.unaltered, if_pos ⟨rfl, rfl⟩] at twice
    have one := List.count_pos_iff.mpr listed
    omega
  · intro free
    have unlisted (owner : ElementId) : a.child ∉ m.partsOf owner :=
      fun listed => linked.known a.child owner listed free
    refine ⟨fun owner id => ?_, fun owner id listed => ?_⟩
    · rw [h.count_partsOf linked.unaltered]
      split
      · rename_i both
        have none := List.count_eq_zero_of_not_mem (unlisted owner)
        rw [both.2]
        omega
      · exact owned.once owner id
    · rw [h.parent_eq]
      rcases (h.mem_partsOf linked.unaltered).mp listed with before | ⟨rfl, rfl⟩
      · have other : id ≠ a.child := by
          rintro rfl
          exact unlisted owner before
        rw [if_neg other]
        exact owned.parent owner id before
      · exact if_pos rfl

theorem Added.climbs_iff (h : m.Added m' a) (climbs : m.Climbs) :
    m'.Climbs ↔ ¬ m.Under a.owner a.child := by
  have acyclic := climbs_iff_acyclic.mp climbs
  rw [climbs_iff_acyclic]
  constructor
  · intro acyclic'
    refine acyclic.apart acyclic' (by rw [h.parent_eq, if_pos rfl]) fun id parent up other => ?_
    rw [h.parent_eq, if_neg other]
    exact up
  · refine acyclic.with_step fun id parent up => ?_
    rw [h.parent_eq] at up
    split at up
    · cases up
      exact .inr ⟨‹_›, rfl⟩
    · exact .inl up

theorem Added.unfolds_iff (h : m.Added m' a) (unaltered : m.Unaltered) (unfolds : m.Unfolds) :
    m'.Unfolds ↔ ¬ m.Below a.child a.owner := by
  have acyclic := (unfolds_iff_acyclic unaltered).mp unfolds
  rw [unfolds_iff_acyclic h.unaltered]
  constructor
  · intro acyclic' below
    have takes : (m.get a.child).content.takesParts = true := by
      rcases ReflTransGen.cases_head below with same | ⟨next, owned, -⟩
      · exact same ▸ h.owner
      · exact unaltered.takesParts_of_mem owned
    refine acyclic.apart acyclic' (h.child_mem_ownedBy takes) (fun id child owned _ => ?_) below
    rcases h.ownedBy_eq unaltered with same | ⟨-, more⟩
    · rw [same]
      exact owned
    · rw [more]
      exact List.mem_append_left _ owned
  · refine acyclic.with_step fun id child owned => ?_
    rcases h.ownedBy_eq unaltered with same | ⟨hid, more⟩
    · rw [same] at owned
      exact .inl owned
    · rw [more] at owned
      exact (List.mem_append.mp owned).imp_right fun hc => ⟨hid, List.mem_singleton.mp hc⟩

/-- Where each owner is the only one, the trees below go the ways up backwards. -/
theorem OwnedOnce.unfolds (owned : m.OwnedOnce) (unaltered : m.Unaltered) (climbs : m.Climbs) :
    m.Unfolds := by
  refine (unfolds_iff_acyclic unaltered).mpr fun id around => climbs_iff_acyclic.mp climbs id ?_
  have upwards : (fun id child => child ∈ m.ownedBy id) ≤
      Function.swap fun id parent => (m.get id).parent = some parent :=
    fun owner child mem => owned.parent owner child (List.mem_append_right _ mem)
  exact Relation.transGen_swap.mp (TransGen.mono upwards id id around)

/-! ## All calls -/

/-- The elements of the model are new ones. -/
def IsFresh (m : Model) : Prop := ∀ id < m.size, (m.get id).IsFresh

theorem IsFresh.get (fresh : m.IsFresh) (id : ElementId) : (m.get id).IsFresh := by
  by_cases inside : id < m.size
  · exact fresh id inside
  · rw [get_of_size_le (Nat.le_of_not_lt inside)]
    exact ⟨rfl, rfl, rfl, fun name _ => rfl⟩

/-- New elements of what the words call them. -/
def ofWords (words : List String) : Model :=
  ⟨((words.filterMap Content.ofWord?).map Element.new).toArray⟩

theorem isFresh_ofWords (words : List String) : (ofWords words).IsFresh := by
  intro id inside
  have new : (ofWords words).get id ∈ (words.filterMap Content.ofWord?).map Element.new := by
    rw [Model.get, Array.getD_eq_getD_getElem?, Array.getElem?_eq_getElem inside]
    exact List.mem_toArray.mp (Array.getElem_mem inside)
  obtain ⟨content, named, same⟩ := List.mem_map.mp new
  obtain ⟨word, -, hw⟩ := List.mem_filterMap.mp named
  rw [← same]
  exact Element.isFresh_new hw

theorem IsFresh.partsOf_eq (fresh : m.IsFresh) : m.partsOf id = [] := by
  have unaltered : m.Unaltered := fun id => (fresh.get id).unaltered
  rw [unaltered.partsOf_eq, (fresh.get id).members, (fresh.get id).owned, List.append_nil]

theorem IsFresh.linked (fresh : m.IsFresh) : m.Linked := by
  refine ⟨fun id => (fresh.get id).unaltered, fun id owner parent => ?_, fun id owner listed => ?_⟩
  · rw [(fresh.get id).parent] at parent
    cases parent
  · rw [fresh.partsOf_eq] at listed
    cases listed

theorem IsFresh.ownedOnce (fresh : m.IsFresh) : m.OwnedOnce := by
  refine ⟨fun owner id => ?_, fun owner id listed => ?_⟩
  · rw [fresh.partsOf_eq, List.count_nil]
    exact Nat.zero_le 1
  · rw [fresh.partsOf_eq] at listed
    cases listed

theorem IsFresh.climbs (fresh : m.IsFresh) : m.Climbs := by
  refine climbs_iff_acyclic.mpr fun id around => ?_
  obtain ⟨parent, first, -⟩ := TransGen.head'_iff.mp around
  rw [(fresh.get id).parent] at first
  cases first

/-- Who owns what before the first of the calls and after each of them. -/
structure OwnersThroughout (m : Model) (calls : List Addition) : Prop where
  /-- Every call succeeds. -/
  succeeds : m.EachCall calls fun m a => (m.attach a.owner a.child).1 = .ok ()
  /-- Every element that has a parent stands in a list of the parent. -/
  listed : m.Throughout calls fun m =>
    ∀ id owner, (m.get id).parent = some owner → id ∈ m.partsOf owner
  /-- Elements stand in one list once, and its owner is their parent, as long as no call adds an
  element that has a parent already. -/
  ownedOnce : m.Throughout calls OwnedOnce ↔
    m.EachCall calls fun m a => (m.get a.child).parent = none
  /-- The ways up end as long as no call adds an element to itself or to one that it is met from. -/
  climbs : m.Throughout calls Climbs ↔ m.EachCall calls fun m a => ¬ m.Under a.owner a.child
  /-- The trees below end as long as no call adds an element to one that is in its tree. -/
  unfolds : m.Throughout calls Unfolds ↔ m.EachCall calls fun m a => ¬ m.Below a.child a.owner
  /-- All three hold where the calls add elements without a parent to others that are not below. -/
  consistent : (m.EachCall calls fun m a =>
      (m.get a.child).parent = none ∧ ¬ m.Under a.owner a.child) →
    m.Throughout calls fun m => m.OwnedOnce ∧ m.Climbs ∧ m.Unfolds

/-- **Adding parts to new elements**: every call succeeds and links the element to its owner, and for
each call it is told whether elements still stand in one list only, whether the ways up end, and whether
the trees below do. -/
theorem ownersThroughout_of_fresh {calls : List Addition} (fresh : m.IsFresh)
    (allowed : ∀ a ∈ calls, m.Allows a) : m.OwnersThroughout calls := by
  have linked := fresh.linked
  have kept : m.Throughout calls Linked :=
    (linked.throughout_iff (C := fun _ _ => True) allowed
      (fun linked h _ => iff_of_true (linked.added h) trivial) linked).mpr fun _ _ _ => trivial
  have ownedOnce := linked.throughout_iff allowed Linked.ownedOnce_iff fresh.ownedOnce
  have climbs := linked.throughout_iff allowed (fun _ h => h.climbs_iff) fresh.climbs
  have unfolds := linked.throughout_iff allowed (fun linked h => h.unfolds_iff linked.unaltered)
    (fresh.ownedOnce.unfolds linked.unaltered fresh.climbs)
  refine ⟨?_, fun before hb => (kept before hb).listed, ownedOnce, climbs, unfolds, ?_⟩
  · refine linked.eachCall allowed fun linked allows => ?_
    rw [attach_ok linked.unaltered allows]
  · intro good before hb
    have once := ownedOnce.mpr (fun before a hb => (good before a hb).1) before hb
    have up := climbs.mpr (fun before a hb => (good before a hb).2) before hb
    exact ⟨once, up, once.unfolds (kept before hb).unaltered up⟩

/-- A package, a class in it with an attribute, and an enumeration in the class with a literal. -/
theorem ownersThroughout_nested :
    let m := ofWords ["Package", "Class", "Attribute", "Enumeration", "EnumerationLiteral"]
    let calls : List Addition := [⟨0, 1⟩, ⟨1, 2⟩, ⟨1, 3⟩, ⟨3, 4⟩]
    m.IsFresh ∧ (∀ a ∈ calls, m.Allows a) ∧ m.OwnersThroughout calls ∧
      (m.addAll calls).partsOf 1 = [2, 3] ∧ (m.addAll calls).ancestors 4 = [3, 1, 0] ∧
      (m.addAll calls).elementsBelow 0 = .ok [0, 1, 3] := by
  intro m calls
  have fresh : m.IsFresh := isFresh_ofWords _
  have allowed : ∀ a ∈ calls, m.Allows a := by
    simp only [calls, List.forall_mem_cons]
    exact ⟨⟨rfl, by decide⟩, ⟨rfl, by decide⟩, ⟨rfl, by decide⟩, ⟨rfl, by decide⟩, nofun⟩
  have below : (m.addAll calls).elementsBelow 0 = .ok [0, 1, 3] :=
    elementsBelow_eq_ok.mpr (Prod.ext (by decide +kernel) (by decide +kernel))
  exact ⟨fresh, allowed, ownersThroughout_of_fresh fresh allowed, by decide +kernel,
    by decide +kernel, below⟩

/-- A class that is added to two packages stands in both, one of which is its parent. A package that is
added to itself has no end of ancestors. And where two packages are added to each other and one of them
to a third one, the ways up end but a walk downwards does not. -/
theorem added_twice_or_to_itself :
    let m := ofWords ["Package", "Package", "Package", "Class"]
    let twice := m.addAll [⟨0, 3⟩, ⟨1, 3⟩]
    let looped := m.addAll [⟨0, 0⟩]
    let crossed := m.addAll [⟨0, 1⟩, ⟨2, 1⟩, ⟨1, 0⟩]
    m.IsFresh ∧ (∀ a ∈ [⟨0, 3⟩, ⟨1, 3⟩, ⟨0, 0⟩, ⟨0, 1⟩, ⟨2, 1⟩, ⟨1, 0⟩], m.Allows a) ∧
      (3 ∈ twice.partsOf 0 ∧ 3 ∈ twice.partsOf 1 ∧ (twice.get 3).parent = some 1) ∧
      ¬ looped.Climbs ∧
      (crossed.ClimbsTo 2 0 [1, 2] ∧ ∀ ids, crossed.elementsBelow 0 ≠ .ok ids) := by
  intro m twice looped crossed
  refine ⟨isFresh_ofWords _, ?_, ?_, ?_, ?_, fun ids below => ?_⟩
  · simp only [List.forall_mem_cons]
    refine ⟨?_, ?_, ?_, ?_, ?_, ?_, nofun⟩ <;> exact ⟨rfl, by decide⟩
  · decide +kernel
  · exact fun climbs => climbs_iff_acyclic.mp climbs 0 (.single (by decide +kernel))
  · exact .step (by decide +kernel) (.step (by decide +kernel) (.root (by decide +kernel)))
  · have ends : (crossed.walk crossed.depth 0).2 = none :=
      congrArg Prod.snd (elementsBelow_eq_ok.mp below)
    exact absurd ends (by decide +kernel)

end Model

end GosuForge
