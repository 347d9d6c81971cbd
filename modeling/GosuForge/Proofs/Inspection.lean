import GosuForge.Model.Basic

/-!
# What inspections answer and leave behind

An inspection may let kept lists grow and changes nothing else of a model.

* `Model.GrowsTo`: the first model becomes the second when lists grow that elements are named by;
* `Inspection.Keeps`: an inspection leaves every model as one that it grows to;
* `Inspection.Yields`: whatever an inspection answers satisfies a predicate;
* `Model.PlainlyNamed`: no element is named by a list, so that such a model never changes.
-/

namespace GosuForge

/-- A new element of a name, owned by another one. -/
def Element.newNamed (name : String) (parent : Option ElementId) (content : Content) : Element :=
  { new content with name := .str name, parent }

namespace Model

theorem get_set (m : Model) (id j : ElementId) (e : Element) :
    (m.set id e).get j = if j = id ∧ id < m.size then e else m.get j := by
  simp only [get, set, size, Array.getD_eq_getD_getElem?, Array.getElem?_setIfInBounds]
  by_cases h : id = j
  · subst h
    by_cases hs : id < m.elements.size
    · simp [hs]
    · simp [hs]
  · simp [h, Ne.symm h]

theorem size_set (m : Model) (id : ElementId) (e : Element) : (m.set id e).size = m.size := by
  simp [set, size]

/-- There is nothing behind the elements of a model. -/
theorem get_of_size_le {m : Model} {id : ElementId} (h : m.size ≤ id) : m.get id = default := by
  rw [get, Array.getD_eq_getD_getElem?, Array.getElem?_eq_none h, Option.getD_none]

theorem ext_get {m m' : Model} (hs : m'.size = m.size) (h : ∀ id, m'.get id = m.get id) :
    m' = m := by
  obtain ⟨elements⟩ := m
  obtain ⟨elements'⟩ := m'
  congr 1
  apply Array.ext hs
  intro i hi' hi
  have := h i
  simpa [get, Array.getD_eq_getD_getElem?, hi, hi'] using this

/-- A list that elements are named by may be another list afterwards; all else is as it was. -/
def GrowsTo (m m' : Model) : Prop :=
  m'.size = m.size ∧ ∀ id, m'.get id = m.get id ∨
    (∃ old new, (m.get id).content = .stray old ∧ m'.get id = .new (.stray new)) ∧
      ∃ named, (m.get named).name = .kept id

theorem GrowsTo.refl (m : Model) : m.GrowsTo m := ⟨rfl, fun _ => Or.inl rfl⟩

/-- Growing names no element anew. -/
theorem GrowsTo.kept_name {m m' : Model} (h : m.GrowsTo m') {named id : ElementId}
    (hn : (m'.get named).name = .kept id) : (m.get named).name = .kept id := by
  rcases h.2 named with e | ⟨⟨_, _, -, e⟩, -⟩
  · rwa [e] at hn
  · rw [e] at hn
    cases hn

theorem GrowsTo.trans {m m' m'' : Model} (h : m.GrowsTo m') (h' : m'.GrowsTo m'') :
    m.GrowsTo m'' := by
  refine ⟨h'.1.trans h.1, fun id => ?_⟩
  rcases h'.2 id with e' | ⟨⟨old, new, ho, e'⟩, named, hn⟩
  · rw [e']
    exact h.2 id
  · have hn := h.kept_name hn
    rcases h.2 id with e | ⟨⟨older, _, ho', -⟩, -⟩
    · exact Or.inr ⟨⟨old, new, e ▸ ho, e'⟩, named, hn⟩
    · exact Or.inr ⟨⟨older, new, ho', e'⟩, named, hn⟩

/-- Only lists grow, and a list cannot be asked for anything, be it before or after. -/
theorem GrowsTo.get_eq_of_read {m m' : Model} {id : ElementId} (grown : m.GrowsTo m') {e : Element}
    (h : m.read id = .ok e ∨ m'.read id = .ok e) : m'.get id = m.get id := by
  rcases grown.2 id with same | ⟨⟨old, new, e, e'⟩, -⟩
  · exact same
  · rcases h with h | h
    · rw [read, e] at h
      cases h
    · rw [read, e'] at h
      cases h

/-- What can be read is as it was. -/
theorem GrowsTo.read_eq {m m' : Model} {id : ElementId} (grown : m.GrowsTo m') {e : Element}
    (h : m'.read id = .ok e) : e = m.get id := by
  have same := grown.get_eq_of_read (.inr h)
  rw [read] at h
  split at h
  · cases h
  · exact (Except.ok.inj h).symm.trans same

/-- No element is named by a list. -/
def PlainlyNamed (m : Model) : Prop :=
  ∀ named id v, (m.get named).name = .kept id → (m.get id).content ≠ .stray v

theorem plainlyNamed_of_texts {m : Model} (h : ∀ e ∈ m.elements, ∃ s, e.name = .str s) :
    m.PlainlyNamed := by
  intro named id v hn
  by_cases hs : named < m.elements.size
  · obtain ⟨s, e⟩ := h m.elements[named] (Array.getElem_mem hs)
    simp [get, Array.getD_eq_getD_getElem?, hs, e] at hn
  · rw [get_of_size_le (Nat.le_of_not_lt hs)] at hn
    cases hn

theorem GrowsTo.eq_of_plainlyNamed {m m' : Model} (h : m.GrowsTo m') (plain : m.PlainlyNamed) :
    m' = m := by
  refine ext_get h.1 fun id => ?_
  rcases h.2 id with e | ⟨⟨old, _, ho, -⟩, named, hn⟩
  · exact e
  · exact absurd ho (plain named id old hn)

end Model

namespace Inspection

variable {α β : Type}

/-! ## Steps of an inspection -/

@[simp] theorem runIn_get (m : Model) : (get : Inspection Model).runIn m = (.ok m, m) := rfl

@[simp] theorem runIn_lift (m : Model) (x : Except Fault α) :
    (liftM x : Inspection α).runIn m = (x, m) := by
  cases x <;> rfl

theorem runIn_bind (m : Model) (i : Inspection α) (f : α → Inspection β) :
    (i >>= f).runIn m =
      match i.runIn m with
      | (.ok x, m) => (f x).runIn m
      | (.error fault, m) => (.error fault, m) := by
  simp only [runIn, bind, EStateM.bind, EStateM.run]
  cases i m <;> rfl

/-- An answer of two steps is one of the second after one of the first. -/
theorem answerIn_bind_eq_ok {m : Model} {i : Inspection α} {f : α → Inspection β} {y : β}
    (h : (i >>= f).answerIn m = .ok y) :
    ∃ x m', i.answerIn m = .ok x ∧ (f x).answerIn m' = .ok y := by
  rw [answerIn, runIn_bind] at h
  rcases hi : i.runIn m with ⟨fault | x, m'⟩
  · rw [hi] at h
    cases h
  · rw [hi] at h
    exact ⟨x, m', congrArg Prod.fst hi, h⟩

theorem runIn_bind_of_ok {m m' : Model} {i : Inspection α} {x : α} (f : α → Inspection β)
    (h : i.runIn m = (.ok x, m')) : (i >>= f).runIn m = (f x).runIn m' := by
  rw [runIn_bind, h]

@[simp] theorem answerIn_pure (m : Model) (x : α) : (pure x : Inspection α).answerIn m = .ok x :=
  rfl

@[simp] theorem answerIn_lift (m : Model) (x : Except Fault α) :
    (liftM x : Inspection α).answerIn m = x := by
  rw [answerIn, runIn_lift]

/-- The model that an inspection looks at first. -/
theorem answerIn_get_bind (m : Model) (f : Model → Inspection β) :
    (get >>= f).answerIn m = (f m).answerIn m := rfl

/-! ## Inspections that let only kept lists grow -/

structure Keeps (i : Inspection α) : Prop where
  growsTo : ∀ m : Model, m.GrowsTo (i.runIn m).2

namespace Keeps

theorem pure (x : α) : Keeps (pure x) := ⟨Model.GrowsTo.refl⟩

theorem get : Keeps get := ⟨Model.GrowsTo.refl⟩

theorem throw (fault : Fault) : Keeps (throw fault : Inspection α) := ⟨Model.GrowsTo.refl⟩

theorem lift (x : Except Fault α) : Keeps (liftM x) := by
  refine ⟨fun m => ?_⟩
  rw [runIn_lift]
  exact .refl m

theorem bind {i : Inspection α} {f : α → Inspection β} (hi : Keeps i) (hf : ∀ x, Keeps (f x)) :
    Keeps (i >>= f) := by
  refine ⟨fun m => ?_⟩
  rw [runIn_bind]
  have hm := hi.growsTo m
  rcases hr : i.runIn m with ⟨fault | x, m'⟩ <;> rw [hr] at hm
  · exact hm
  · exact hm.trans ((hf x).growsTo m')

/-- What follows answers in a model that the first one grows to. -/
theorem exists_grown {i : Inspection α} {f : α → Inspection β} (hi : Keeps i) {m : Model} {y : β}
    (h : (i >>= f).answerIn m = .ok y) :
    ∃ x m', i.answerIn m = .ok x ∧ m.GrowsTo m' ∧ (f x).answerIn m' = .ok y := by
  rw [answerIn, runIn_bind] at h
  have grown := hi.growsTo m
  rcases hr : i.runIn m with ⟨fault | x, m'⟩ <;> rw [hr] at h grown
  · cases h
  · exact ⟨x, m', congrArg Prod.fst hr, grown, h⟩

theorem mapM {f : α → Inspection β} : ∀ xs : List α, (∀ x ∈ xs, Keeps (f x)) → Keeps (xs.mapM f)
  | [], _ => by
    rw [List.mapM_nil]
    exact .pure _
  | x :: xs, h => by
    rw [List.mapM_cons]
    have hxs := mapM xs fun y hy => h y (List.mem_cons_of_mem _ hy)
    exact (h x List.mem_cons_self).bind fun _ => hxs.bind fun _ => .pure _

/-- An inspection of a model without lists as names leaves it as it is. -/
theorem runIn_snd {i : Inspection α} (h : Keeps i) {m : Model} (plain : m.PlainlyNamed) :
    (i.runIn m).2 = m :=
  (h.growsTo m).eq_of_plainlyNamed plain

theorem runIn_eq {i : Inspection α} (h : Keeps i) {m : Model} (plain : m.PlainlyNamed) :
    i.runIn m = (i.answerIn m, m) :=
  Prod.ext rfl (h.runIn_snd plain)

theorem answerIn_bind {i : Inspection α} (h : Keeps i) {m : Model} (plain : m.PlainlyNamed)
    (f : α → Inspection β) :
    (i >>= f).answerIn m = i.answerIn m >>= fun x => (f x).answerIn m := by
  rw [answerIn, runIn_bind, h.runIn_eq plain]
  cases i.answerIn m <;> rfl

theorem answerIn_mapM {m : Model} (plain : m.PlainlyNamed) {f : α → Inspection β} :
    ∀ xs : List α, (∀ x ∈ xs, Keeps (f x)) →
      (xs.mapM f).answerIn m = xs.mapM fun x => (f x).answerIn m
  | [], _ => rfl
  | x :: xs, h => by
    have hxs : ∀ y ∈ xs, Keeps (f y) := fun y hy => h y (List.mem_cons_of_mem _ hy)
    rw [List.mapM_cons, List.mapM_cons, (h x List.mem_cons_self).answerIn_bind plain]
    congr 1
    funext y
    rw [(mapM xs hxs).answerIn_bind plain, answerIn_mapM plain xs hxs]
    rfl

end Keeps

/-! ## Inspections whose answers satisfy a predicate -/

structure Yields (p : α → Prop) (i : Inspection α) : Prop where
  holds : ∀ {m x}, i.answerIn m = .ok x → p x

namespace Yields

theorem pure {p : α → Prop} {x : α} (h : p x) : Yields p (pure x) := by
  refine ⟨fun hr => ?_⟩
  cases hr
  exact h

theorem throw {p : α → Prop} (fault : Fault) : Yields p (throw fault) := by
  refine ⟨fun hr => ?_⟩
  cases hr

theorem lift {p : α → Prop} {x : Except Fault α} (h : ∀ y, x = .ok y → p y) :
    Yields p (liftM x) := by
  refine ⟨fun hr => ?_⟩
  rw [answerIn_lift] at hr
  exact h _ hr

theorem bind {p : α → Prop} {q : β → Prop} {i : Inspection α} {f : α → Inspection β}
    (hi : Yields p i) (hf : ∀ x, p x → Yields q (f x)) : Yields q (i >>= f) := by
  refine ⟨fun hr => ?_⟩
  obtain ⟨x, m', hx, hy⟩ := answerIn_bind_eq_ok hr
  exact (hf x (hi.holds hx)).holds hy

/-- Whatever the first step answers. -/
theorem after {q : β → Prop} {i : Inspection α} {f : α → Inspection β}
    (hf : ∀ x, Yields q (f x)) : Yields q (i >>= f) :=
  bind (p := fun _ => True) ⟨fun _ => trivial⟩ fun x _ => hf x

theorem mapM {p : β → Prop} {f : α → Inspection β} :
    ∀ xs : List α, (∀ x ∈ xs, Yields p (f x)) → Yields (fun ys => ∀ y ∈ ys, p y) (xs.mapM f)
  | [], _ => by
    rw [List.mapM_nil]
    exact .pure fun _ hy => absurd hy List.not_mem_nil
  | x :: xs, h => by
    rw [List.mapM_cons]
    have hxs := mapM xs fun y hy => h y (List.mem_cons_of_mem _ hy)
    refine (h x List.mem_cons_self).bind fun y hy => hxs.bind fun ys hys => .pure fun z hz => ?_
    rcases List.mem_cons.mp hz with rfl | hz
    · exact hy
    · exact hys z hz

end Yields

end Inspection

end GosuForge
