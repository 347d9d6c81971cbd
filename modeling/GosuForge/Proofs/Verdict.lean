import GosuForge.Proofs.Outcome

/-!
# Verdicts

The verdict of a step says when it answers and what it answers then. A step that does not answer
names a defect of a model document.

* `Outcome.Verdict`: the verdict of a step;
* `Verdict.bind`, `Verdict.mapM`: verdicts of steps one after the other.
-/

namespace GosuForge.Outcome

variable {α β : Type}

/-- A step answers if and only if `p` holds, and its answers satisfy `q`. -/
structure Verdict (x : Except Fault α) (p : Prop) (q : α → Prop) : Prop where
  answered : ∀ a, x = .ok a → p ∧ q a
  refused : ∀ fault, x = .error fault → ¬ p ∧ ∃ defect, fault = .model defect

namespace Verdict

variable {x : Except Fault α} {p p' : Prop} {q q' : α → Prop}

theorem pure {a : α} (h : q a) : Verdict (.ok a) True q where
  answered b hb := by
    cases hb
    exact ⟨trivial, h⟩
  refused fault hf := by cases hf

theorem refuse (defect : ModelDefect) :
    Verdict (.error (.model defect) : Except Fault α) False q where
  answered a ha := by cases ha
  refused fault hf := by
    cases hf
    exact ⟨id, defect, rfl⟩

/-- A condition said in other words, and a consequence of what is answered. -/
theorem imp (h : Verdict x p q) (hp : p ↔ p') (hq : ∀ a, p → q a → q' a) : Verdict x p' q' where
  answered a ha := by
    obtain ⟨hpa, hqa⟩ := h.answered a ha
    exact ⟨hp.mp hpa, hq a hpa hqa⟩
  refused fault hf := by
    obtain ⟨hn, hd⟩ := h.refused fault hf
    exact ⟨fun hp' => hn (hp.mpr hp'), hd⟩

theorem congr (h : Verdict x p q) (hp : p ↔ p') : Verdict x p' q := h.imp hp fun _ _ hq => hq

theorem and_eq (h : Verdict x p q) : Verdict x p fun a => x = .ok a ∧ q a where
  answered a ha := ⟨(h.answered a ha).1, ha, (h.answered a ha).2⟩
  refused := h.refused

/-- Of two steps each has its condition. -/
theorem bind {f : α → Except Fault β} {q' : β → Prop} (h : Verdict x p q)
    (hf : ∀ a, p → q a → Verdict (f a) p' q') : Verdict (x >>= f) (p ∧ p') q' := by
  cases hx : x with
  | error fault =>
    obtain ⟨hn, hd⟩ := h.refused fault hx
    constructor
    · intro b hb
      cases hb
    · intro other ho
      cases ho
      exact ⟨fun hpp => hn hpp.1, hd⟩
  | ok a =>
    obtain ⟨hp, hq⟩ := h.answered a hx
    have next := hf a hp hq
    constructor
    · intro b hb
      obtain ⟨hp', hq'⟩ := next.answered b hb
      exact ⟨⟨hp, hp'⟩, hq'⟩
    · intro fault hfault
      obtain ⟨hn, hd⟩ := next.refused fault hfault
      exact ⟨fun hpp => hn hpp.2, hd⟩

/-- A step that answers in any case leaves the condition to the next one. -/
theorem bind_ok {f : α → Except Fault β} {q' : β → Prop} {a : α} (hx : x = .ok a)
    (hf : Verdict (f a) p q') : Verdict (x >>= f) p q' := by
  subst hx
  exact hf

/-- A last step that always answers. -/
theorem bind_pure {f : α → β} {q' : β → Prop} (h : Verdict x p q) (hq : ∀ a, q a → q' (f a)) :
    Verdict (x >>= fun a => .ok (f a)) p q' :=
  (h.bind fun a _ ha => pure (hq a ha)).congr (and_true p).to_iff

theorem map {f : α → β} {q' : β → Prop} (h : Verdict x p q) (hq : ∀ a, p → q a → q' (f a)) :
    Verdict (x.map f) p q' := by
  cases hx : x with
  | error fault =>
    constructor
    · intro b hb
      cases hb
    · intro other ho
      cases ho
      exact h.refused fault hx
  | ok a =>
    obtain ⟨hp, hqa⟩ := h.answered a hx
    constructor
    · intro b hb
      cases hb
      exact ⟨hp, hq a hp hqa⟩
    · intro other ho
      cases ho

/-- Steps for all items of a list answer if each of them does. -/
theorem mapM {f : α → Except Fault β} {p : α → Prop} {q : α → β → Prop} {xs : List α}
    (h : ∀ x ∈ xs, Verdict (f x) (p x) (q x)) :
    Verdict (xs.mapM f) (∀ x ∈ xs, p x) (List.Forall₂ q xs) := by
  induction xs with
  | nil => exact (pure .nil).congr (by simp)
  | cons x xs ih =>
    obtain ⟨hx, hxs⟩ := List.forall_mem_cons.mp h
    rw [List.mapM_cons]
    refine (hx.bind fun y _ hy => (ih hxs).bind fun ys _ hys => pure (.cons hy hys)).congr ?_
    simp

theorem exists_ok_iff (h : Verdict x p q) : (∃ a, x = .ok a) ↔ p := by
  constructor
  · rintro ⟨a, ha⟩
    exact (h.answered a ha).1
  · intro hp
    cases hx : x with
    | ok a => exact ⟨a, rfl⟩
    | error fault => exact absurd hp (h.refused fault hx).1

end Verdict

end GosuForge.Outcome
