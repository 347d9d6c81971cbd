import GosuForge.Console.Dialogue
import GosuForge.Proofs.Drawing

/-!
# What a dialogue leaves of the disk

A dialogue may end in the middle, and what it did until then stays. A few laws tell what becomes of the
disk, and each of them is closed under steps in sequence.

* `Dialogue.LeavesDisk`: the disk is left as it was, however the dialogue ends;
* `Dialogue.Untouched`: it is left so if the dialogue is cancelled, and with some of the answers;
* `Dialogue.Completes`: the dialogue is not cancelled, and has one of some answers;
* `Dialogue.Shows`: what only shows something does neither;
* `Dialogue.Returns`: the dialogue has an answer on every console.
-/

namespace GosuForge.Dialogue

open Outcome (Uncancelled)

variable {α β : Type}

/-- The console that a dialogue leaves, also if it ends in a fault. -/
def left (x : Dialogue α) (c : Console) : Console :=
  match x c with
  | .ok _ after => after
  | .error _ after => after

theorem left_of_ok {x : Dialogue α} {c after : Console} {a : α} (h : x c = .ok a after) :
    x.left c = after := by
  rw [left, h]

theorem left_of_error {x : Dialogue α} {c after : Console} {fault : Fault}
    (h : x c = .error fault after) : x.left c = after := by
  rw [left, h]

theorem left_congr {x y : Dialogue α} {c c' : Console} (h : x c = y c') :
    x.left c = y.left c' := by
  rw [left, left, h]

/-- What a dialogue answers, unless it ends in a fault. -/
def answer? (x : Dialogue α) (c : Console) : Option α :=
  match x c with
  | .ok a _ => some a
  | .error _ _ => none

theorem answer?_eq_some {x : Dialogue α} {c : Console} {a : α} :
    x.answer? c = some a ↔ x c = .ok a (x.left c) := by
  rw [answer?, left]
  cases x c <;> simp

theorem answer?_congr {x y : Dialogue α} {c c' : Console} (h : x c = y c') :
    x.answer? c = y.answer? c' := by
  rw [answer?, answer?, h]

theorem bind_of_ok {x : Dialogue α} {c between : Console} {a : α} (h : x c = .ok a between)
    (f : α → Dialogue β) : (x >>= f) c = f a between := by
  show EStateM.bind x f c = _
  unfold EStateM.bind
  rw [h]

theorem bind_eq_ok {x : Dialogue α} {f : α → Dialogue β} {c after : Console} {b : β} :
    (x >>= f) c = .ok b after ↔ ∃ a between, x c = .ok a between ∧ f a between = .ok b after := by
  show EStateM.bind x f c = _ ↔ _
  unfold EStateM.bind
  cases x c <;> simp

theorem bind_eq_error {x : Dialogue α} {f : α → Dialogue β} {c after : Console} {fault : Fault} :
    (x >>= f) c = .error fault after ↔
      x c = .error fault after ∨
        ∃ a between, x c = .ok a between ∧ f a between = .error fault after := by
  show EStateM.bind x f c = _ ↔ _
  unfold EStateM.bind
  cases x c <;> simp

theorem ofExcept_eq_error {r : Except Fault α} {c after : Console} {fault : Fault} :
    ofExcept r c = .error fault after ↔ r = .error fault ∧ after = c := by
  cases r with
  | ok b => exact ⟨nofun, nofun⟩
  | error other => exact ⟨by rintro ⟨⟩; exact ⟨rfl, rfl⟩, by rintro ⟨⟨⟩, rfl⟩; rfl⟩

/-- A fault is handled on the console that it left. -/
theorem tryCatch_apply (x : Dialogue α) (handle : Fault → Dialogue α) (c : Console) :
    tryCatch x handle c =
      match x c with
      | .ok a after => .ok a after
      | .error fault after => handle fault after := by
  show EStateM.tryCatch x handle c = _
  unfold EStateM.tryCatch
  cases x c <;> rfl

/-! ## Dialogues that leave the disk as it was -/

def LeavesDisk (x : Dialogue α) : Prop := ∀ c, (x.left c).disk = c.disk

/-- Where what comes after a dialogue leaves the disk, the dialogue alone decides. -/
theorem disk_left_bind {x : Dialogue α} {f : α → Dialogue β} (hf : ∀ a, (f a).LeavesDisk)
    (c : Console) : ((x >>= f).left c).disk = (x.left c).disk := by
  cases h : x c with
  | ok a between =>
    rw [left_congr (bind_of_ok h f), left_of_ok h]
    exact hf a between
  | error fault between =>
    rw [left_of_error (bind_eq_error.mpr (.inl h)), left_of_error h]

theorem disk_left_tryCatch {x : Dialogue α} {handle : Fault → Dialogue α}
    (hh : ∀ fault, (handle fault).LeavesDisk) (c : Console) :
    ((tryCatch x handle).left c).disk = (x.left c).disk := by
  have caught := tryCatch_apply x handle c
  cases h : x c with
  | ok a after =>
    rw [h] at caught
    rw [left_of_ok caught, left_of_ok h]
  | error fault after =>
    rw [h] at caught
    rw [left, caught, left_of_error h]
    exact hh fault after

namespace LeavesDisk

theorem of_ok {x : Dialogue α} (h : x.LeavesDisk) {c after : Console} {a : α}
    (e : x c = .ok a after) : after.disk = c.disk := left_of_ok e ▸ h c

theorem of_error {x : Dialogue α} (h : x.LeavesDisk) {c after : Console} {fault : Fault}
    (e : x c = .error fault after) : after.disk = c.disk := left_of_error e ▸ h c

theorem pure (a : α) : (Pure.pure a : Dialogue α).LeavesDisk := fun _ => rfl

theorem throw (fault : Fault) : (throw fault : Dialogue α).LeavesDisk := fun _ => rfl

theorem get : (MonadState.get : Dialogue Console).LeavesDisk := fun _ => rfl

theorem ofExcept (r : Except Fault α) : (Dialogue.ofExcept r).LeavesDisk := by
  cases r
  · exact throw _
  · exact pure _

theorem bind {x : Dialogue α} {f : α → Dialogue β} (hx : x.LeavesDisk)
    (hf : ∀ a, (f a).LeavesDisk) : (x >>= f).LeavesDisk :=
  fun c => (disk_left_bind hf c).trans (hx c)

theorem tryCatch {x : Dialogue α} {handle : Fault → Dialogue α} (hx : x.LeavesDisk)
    (hh : ∀ fault, (handle fault).LeavesDisk) : (tryCatch x handle).LeavesDisk :=
  fun c => (disk_left_tryCatch hh c).trans (hx c)

theorem mapM {f : α → Dialogue β} {xs : List α} (hf : ∀ a, (f a).LeavesDisk) :
    (xs.mapM f).LeavesDisk := by
  induction xs with
  | nil => exact pure _
  | cons a xs ih =>
    rw [List.mapM_cons]
    exact (hf a).bind fun _ => ih.bind fun _ => pure _

end LeavesDisk

theorem leavesDisk_disk : disk.LeavesDisk := fun _ => rfl

/-! ## Dialogues that are not cancelled -/

/-- A dialogue that is not cancelled, and has one of some answers if it has one at all. -/
structure Completes (P : α → Prop) (x : Dialogue α) : Prop where
  answer : ∀ {c after a}, x c = .ok a after → P a
  uncancelled : ∀ {c after reason}, x c ≠ .error (.cancelled reason) after

namespace Completes

variable {P : α → Prop} {R : β → Prop}

theorem pure {a : α} (h : P a) : (Pure.pure a : Dialogue α).Completes P :=
  ⟨by rintro _ _ _ ⟨⟩; exact h, nofun⟩

theorem throw {fault : Fault} (h : ∀ reason, fault ≠ .cancelled reason) :
    (throw fault : Dialogue α).Completes P :=
  ⟨nofun, by rintro _ _ reason ⟨⟩; exact h reason rfl⟩

theorem ofExcept {r : Except Fault α} (h : Uncancelled r) :
    (Dialogue.ofExcept r).Completes fun _ => True :=
  ⟨fun _ => trivial, fun e => h _ (ofExcept_eq_error.mp e).1⟩

theorem bind {x : Dialogue α} {f : α → Dialogue β} (hx : x.Completes P)
    (hf : ∀ a, P a → (f a).Completes R) : (x >>= f).Completes R where
  answer h := by
    obtain ⟨a, between, first, second⟩ := bind_eq_ok.mp h
    exact (hf a (hx.answer first)).answer second
  uncancelled h := by
    rcases bind_eq_error.mp h with first | ⟨a, between, first, second⟩
    · exact hx.uncancelled first
    · exact (hf a (hx.answer first)).uncancelled second

theorem imp {Q : α → Prop} {x : Dialogue α} (h : x.Completes P) (hq : ∀ a, P a → Q a) :
    x.Completes Q := ⟨fun e => hq _ (h.answer e), h.uncancelled⟩

/-- A step the answer of which does not matter. -/
theorem seq {x : Dialogue α} {f : α → Dialogue β} (hx : x.Completes fun _ => True)
    (hf : ∀ a, (f a).Completes R) : (x >>= f).Completes R := hx.bind fun a _ => hf a

end Completes

theorem completes_disk : disk.Completes fun _ => True := ⟨fun _ => trivial, nofun⟩

theorem completes_setDisk (disk : Disk) : (setDisk disk).Completes fun _ => True :=
  ⟨fun _ => trivial, nofun⟩

/-! ## Dialogues that only show something -/

/-- A dialogue that is not cancelled and leaves the disk as it was. -/
structure Shows (x : Dialogue α) : Prop where
  leavesDisk : x.LeavesDisk
  completes : x.Completes fun _ => True

namespace Shows

theorem pure (a : α) : (Pure.pure a : Dialogue α).Shows := ⟨.pure a, .pure trivial⟩

theorem ofExcept {r : Except Fault α} (h : Uncancelled r) : (Dialogue.ofExcept r).Shows :=
  ⟨.ofExcept r, .ofExcept h⟩

theorem bind {x : Dialogue α} {f : α → Dialogue β} (hx : x.Shows) (hf : ∀ a, (f a).Shows) :
    (x >>= f).Shows :=
  ⟨hx.leavesDisk.bind fun a => (hf a).leavesDisk, hx.completes.seq fun a => (hf a).completes⟩

theorem forM {f : α → Dialogue PUnit} {xs : List α} (hf : ∀ a, (f a).Shows) : (xs.forM f).Shows := by
  induction xs with
  | nil => exact pure _
  | cons a xs ih => exact (hf a).bind fun _ => ih

end Shows

theorem shows_printLines (lines : List String) : (printLines lines).Shows :=
  ⟨fun _ => rfl, fun _ => trivial, nofun⟩

theorem shows_print (text : String) : (print text).Shows :=
  (Shows.ofExcept (Markup.uncancelled_plain text)).bind fun _ => shows_printLines _

theorem shows_printTable (columns : List Column) : (printTable columns).Shows :=
  (Shows.ofExcept (Table.uncancelled_lines columns)).bind fun _ => shows_printLines _

theorem shows_flash (text : String) : (flash text).Shows :=
  (Shows.ofExcept (Markup.uncancelled_read text)).bind fun _ => .pure _

/-! ## Dialogues that return -/

/-- A dialogue that has an answer, whatever the console is. -/
def Returns (x : Dialogue α) : Prop := ∀ c, ∃ a after, x c = .ok a after

namespace Returns

theorem pure (a : α) : (Pure.pure a : Dialogue α).Returns := fun c => ⟨a, c, rfl⟩

theorem bind {x : Dialogue α} {f : α → Dialogue β} (hx : x.Returns) (hf : ∀ a, (f a).Returns) :
    (x >>= f).Returns := by
  intro c
  obtain ⟨a, between, first⟩ := hx c
  obtain ⟨b, after, second⟩ := hf a between
  exact ⟨b, after, (bind_of_ok first f).trans second⟩

theorem forM {f : α → Dialogue PUnit} {xs : List α} (hf : ∀ a ∈ xs, (f a).Returns) :
    (xs.forM f).Returns := by
  induction xs with
  | nil => exact pure _
  | cons a xs ih =>
    obtain ⟨first, others⟩ := List.forall_mem_cons.mp hf
    exact first.bind fun _ => ih others

end Returns

theorem returns_ofExcept {r : Except Fault α} (h : r.toBool = true) : (ofExcept r).Returns := by
  cases r with
  | ok a => exact .pure a
  | error fault => cases h

/-- A text is shown if its markup can be read. -/
theorem returns_print {text : String} (h : (Markup.plain text).toBool = true) :
    (print text).Returns :=
  (returns_ofExcept h).bind fun _ _ => ⟨_, _, rfl⟩

theorem returns_flash {text : String} (h : (Markup.read text).toBool = true) :
    (flash text).Returns :=
  (returns_ofExcept h).bind fun _ => .pure _

/-! ## Dialogues that ask -/

/-- An answer is taken from those that are left, also if none of them fits. -/
theorem leavesDisk_ask (question : String) (read : String → Option α) (default : α) :
    (ask question read default).LeavesDisk := by
  refine .bind (shows_print question).leavesDisk fun _ c => ?_
  have read : (MonadState.get : Dialogue Console) c = .ok c c := rfl
  rw [left_congr (bind_of_ok read _)]
  split
  · rfl
  · rfl

theorem leavesDisk_orDismiss {x : Dialogue α} (hx : x.LeavesDisk) : (orDismiss x).LeavesDisk := by
  refine hx.tryCatch fun fault => ?_
  cases fault <;> exact .throw _

/-! ## Dialogues that may be cancelled before anything is done -/

/-- A dialogue that leaves the disk as it was if it is cancelled, and with some of its answers. -/
structure Untouched (P : α → Prop) (x : Dialogue α) : Prop where
  answer : ∀ {c after a}, x c = .ok a after → P a → after.disk = c.disk
  cancelled : ∀ {c after reason}, x c = .error (.cancelled reason) after → after.disk = c.disk

theorem LeavesDisk.untouched {x : Dialogue α} (h : x.LeavesDisk) (P : α → Prop) : x.Untouched P :=
  ⟨fun e _ => h.of_ok e, fun e => h.of_error e⟩

theorem Completes.untouched {x : Dialogue α} {P : α → Prop} (h : x.Completes fun a => ¬ P a) :
    x.Untouched P :=
  ⟨fun e ha => absurd ha (h.answer e), fun e => absurd e h.uncancelled⟩

namespace Untouched

variable {P : α → Prop} {R : β → Prop}

/-- What comes after an answer that may have changed the disk is not cancelled and has another
answer. -/
theorem bind {x : Dialogue α} {f : α → Dialogue β} (hx : x.Untouched P)
    (kept : ∀ a, P a → (f a).Untouched R)
    (changed : ∀ a, ¬ P a → (f a).Completes fun b => ¬ R b) : (x >>= f).Untouched R where
  answer h hb := by
    obtain ⟨a, between, first, second⟩ := bind_eq_ok.mp h
    by_cases ha : P a
    · rw [(kept a ha).answer second hb, hx.answer first ha]
    · exact absurd hb ((changed a ha).answer second)
  cancelled h := by
    rcases bind_eq_error.mp h with first | ⟨a, between, first, second⟩
    · exact hx.cancelled first
    · by_cases ha : P a
      · rw [(kept a ha).cancelled second, hx.answer first ha]
      · exact absurd second (changed a ha).uncancelled

/-- A cancelled dialogue may be gone on with; any other fault is not turned into a cancellation. -/
theorem tryCatch {x : Dialogue α} {handle : Fault → Dialogue α} (hx : x.Untouched P)
    (kept : ∀ reason, (handle (.cancelled reason)).Untouched P)
    (changed : ∀ fault, (∀ reason, fault ≠ .cancelled reason) →
      (handle fault).Completes fun a => ¬ P a) : (tryCatch x handle).Untouched P where
  answer {c after a} h ha := by
    rw [tryCatch_apply] at h
    split at h
    · rename_i e
      cases h
      exact hx.answer e ha
    · rename_i fault between e
      by_cases hc : ∃ reason, fault = .cancelled reason
      · obtain ⟨reason, rfl⟩ := hc
        rw [(kept reason).answer h ha, hx.cancelled e]
      · exact absurd ha ((changed fault fun reason he => hc ⟨reason, he⟩).answer h)
  cancelled {c after reason} h := by
    rw [tryCatch_apply] at h
    split at h
    · cases h
    · rename_i fault between e
      by_cases hc : ∃ reason, fault = .cancelled reason
      · obtain ⟨reason, rfl⟩ := hc
        rw [(kept reason).cancelled h, hx.cancelled e]
      · exact absurd h (changed fault fun reason he => hc ⟨reason, he⟩).uncancelled

/-- After steps that leave the disk as it was, the rest of a dialogue decides. -/
theorem after {x : Dialogue α} {f : α → Dialogue β} (hx : x.LeavesDisk)
    (hf : ∀ a, (f a).Untouched R) : (x >>= f).Untouched R :=
  (hx.untouched fun _ => True).bind (fun a _ => hf a) fun _ h => absurd trivial h

end Untouched

end GosuForge.Dialogue
