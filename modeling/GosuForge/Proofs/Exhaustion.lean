import GosuForge.Proofs.Dialogue
import GosuForge.Proofs.LastLine

/-!
# Dialogues that run out of answers

A question that finds no answer stays open, and its line tells which one it was. What a dialogue that is
left so ends in hangs on that line alone.

* `Console.openQuestion?`: the line of the question that found no answer;
* `Dialogue.AsksNothing`: dialogues that ask nothing leave an open question open;
* `Dialogue.RunsOut`: what a dialogue ends in if one of its questions finds no answer.
-/

namespace GosuForge

namespace Console

/-- The line of the question that found no answer, if one did: the last one printed by then. -/
def openQuestion? (c : Console) : Option String :=
  match c.starvedAt with
  | some (n + 1) => c.printed[n]?
  | _ => none

/-- The second console is the first one with more lines on it, and with other answers and another
disk. -/
structure Prints (c after : Console) : Prop where
  starvedAt : after.starvedAt = c.starvedAt
  printed : c.printed <+: after.printed

namespace Prints

variable {c between after : Console}

theorem refl (c : Console) : c.Prints c := ⟨rfl, List.prefix_refl _⟩

theorem trans (h : c.Prints between) (h' : between.Prints after) : c.Prints after :=
  ⟨h'.starvedAt.trans h.starvedAt, h.printed.trans h'.printed⟩

theorem openQuestion? (h : c.Prints after) {line : String} (found : c.openQuestion? = some line) :
    after.openQuestion? = some line := by
  unfold Console.openQuestion? at found ⊢
  rw [h.starvedAt]
  split at found
  · rename_i n _
    obtain ⟨inside, e⟩ := List.getElem?_eq_some_iff.mp found
    obtain ⟨more, e'⟩ := h.printed
    rw [← e', List.getElem?_append_left inside]
    exact found
  · cases found

end Prints

end Console

namespace Dialogue

variable {α β : Type}

/-- How a dialogue ends. -/
def outcome (x : Dialogue α) (c : Console) : Except Fault α :=
  match x c with
  | .ok a _ => .ok a
  | .error fault _ => .error fault

theorem outcome_of_ok {x : Dialogue α} {c after : Console} {a : α} (h : x c = .ok a after) :
    x.outcome c = .ok a := by
  rw [outcome, h]

theorem outcome_of_error {x : Dialogue α} {c after : Console} {fault : Fault}
    (h : x c = .error fault after) : x.outcome c = .error fault := by
  rw [outcome, h]

theorem outcome_congr {x y : Dialogue α} {c c' : Console} (h : x c = y c') :
    x.outcome c = y.outcome c' := by
  rw [outcome, outcome, h]

/-! ## Dialogues that ask nothing -/

def AsksNothing (x : Dialogue α) : Prop := ∀ c : Console, c.Prints (x.left c)

namespace AsksNothing

theorem pure (a : α) : (Pure.pure a : Dialogue α).AsksNothing := fun c => .refl c

theorem throw (fault : Fault) : (throw fault : Dialogue α).AsksNothing := fun c => .refl c

theorem get : (MonadState.get : Dialogue Console).AsksNothing := fun c => .refl c

theorem ofExcept (r : Except Fault α) : (Dialogue.ofExcept r).AsksNothing := by
  cases r with
  | error fault => exact throw fault
  | ok a => exact pure a

theorem bind {x : Dialogue α} {f : α → Dialogue β} (hx : x.AsksNothing)
    (hf : ∀ a, (f a).AsksNothing) : (x >>= f).AsksNothing := by
  intro c
  have first := hx c
  cases h : x c with
  | ok a between =>
    rw [left_of_ok h] at first
    rw [left_congr (bind_of_ok h f)]
    exact first.trans (hf a between)
  | error fault between =>
    rw [left_of_error h] at first
    rwa [left_of_error (bind_eq_error.mpr (.inl h))]

theorem forM {f : α → Dialogue PUnit} {xs : List α} (hf : ∀ a, (f a).AsksNothing) :
    (xs.forM f).AsksNothing := by
  induction xs with
  | nil => exact pure _
  | cons a xs ih => exact (hf a).bind fun _ => ih

end AsksNothing

theorem asksNothing_disk : disk.AsksNothing := fun c => .refl c

theorem asksNothing_setDisk (disk : Disk) : (setDisk disk).AsksNothing :=
  fun _ => ⟨rfl, List.prefix_refl _⟩

theorem asksNothing_printLines (lines : List String) : (printLines lines).AsksNothing :=
  fun _ => ⟨rfl, List.prefix_append _ _⟩

theorem asksNothing_print (text : String) : (print text).AsksNothing :=
  (AsksNothing.ofExcept _).bind fun _ => asksNothing_printLines _

theorem asksNothing_printTable (columns : List Column) : (printTable columns).AsksNothing :=
  (AsksNothing.ofExcept _).bind fun _ => asksNothing_printLines _

theorem asksNothing_flash (text : String) : (flash text).AsksNothing :=
  (AsksNothing.ofExcept _).bind fun _ => .pure _

/-! ## Dialogues that may be left with an open question -/

/-- If a question of a dialogue finds no answer, the line of it and the end of the dialogue suit each
other. -/
def RunsOut (P : String → Except Fault α → Prop) (x : Dialogue α) : Prop :=
  ∀ c, c.starvedAt = none → (x.left c).starvedAt = none ∨
    ∃ line, (x.left c).openQuestion? = some line ∧ P line (x.outcome c)

theorem AsksNothing.runsOut {x : Dialogue α} (h : x.AsksNothing)
    (P : String → Except Fault α → Prop) : x.RunsOut P :=
  fun c fresh => .inl ((h c).starvedAt.trans fresh)

/-- A question is printed, and ends its dialogue if it finds no answer. -/
theorem ask_apply {question text : String} (h : Markup.plain question = .ok text)
    (read : String → Option α) (default : α) (c : Console) :
    ask question read default c =
      match firstFitting read default c.answers with
      | some (a, rest) =>
        .ok a { c with answers := rest, printed := c.printed ++ Text.splitLines text }
      | none =>
        .error .endOfInput
          { c with
            answers := []
            printed := c.printed ++ Text.splitLines text
            starvedAt := c.starvedAt.or (c.printed ++ Text.splitLines text).length } := by
  have printed : print question c =
      .ok () { c with printed := c.printed ++ Text.splitLines text } := by
    rw [print, h]
    rfl
  have looked (between : Console) : (get : Dialogue Console) between = .ok between between := rfl
  rw [ask, bind_of_ok printed, bind_of_ok (looked _)]
  cases firstFitting read default c.answers <;> rfl

theorem runsOut_ask (question : String) (read : String → Option α) (default : α) :
    (ask question read default).RunsOut fun line end' =>
      Markup.lastLine? question = some line ∧ end' = .error .endOfInput := by
  intro c fresh
  cases hq : Markup.plain question with
  | error fault =>
    have failed : ask question read default c = .error fault c :=
      bind_eq_error.mpr (.inl (bind_eq_error.mpr (.inl (by rw [hq]; rfl))))
    exact .inl ((congrArg _ (left_of_error failed)).trans fresh)
  | ok text =>
    have asked := ask_apply hq read default c
    cases hf : firstFitting read default c.answers with
    | some fitting =>
      rw [hf] at asked
      exact .inl ((congrArg _ (left_of_ok asked)).trans fresh)
    | none =>
      -- The lines are those from before and, at the end of them, the line of the question.
      obtain ⟨lines, line, e⟩ := (Text.splitLines text).eq_nil_or_concat.resolve_left
        (Text.splitLines_ne_nil text)
      rw [List.concat_eq_append] at e
      have last : Markup.lastLine? question = some line := by
        rw [Markup.lastLine?, hq, Except.toOption, Option.bind_some, e, List.getLast?_concat]
      rw [hf, fresh, Option.none_or, e, ← List.append_assoc, List.length_append] at asked
      refine .inr ⟨line, ?_, last, outcome_of_error asked⟩
      rw [left_of_error asked]
      exact List.getElem?_concat_length

namespace RunsOut

variable {P : String → Except Fault α → Prop} {R : String → Except Fault β → Prop}

theorem imp {Q : String → Except Fault α → Prop} {x : Dialogue α} (h : x.RunsOut P)
    (hq : ∀ line end', P line end' → Q line end') : x.RunsOut Q :=
  fun c fresh => (h c fresh).imp id fun ⟨line, found, hp⟩ => ⟨line, found, hq _ _ hp⟩

/-- After a step that goes on in spite of an open question nothing more is asked. -/
theorem bind {x : Dialogue α} {f : α → Dialogue β} (hx : x.RunsOut P) (hf : ∀ a, (f a).RunsOut R)
    (failed : ∀ line fault, P line (.error fault) → R line (.error fault))
    (answered : ∀ line a, P line (.ok a) → (f a).AsksNothing ∧ ∀ c, R line ((f a).outcome c)) :
    (x >>= f).RunsOut R := by
  intro c fresh
  have first := hx c fresh
  cases h : x c with
  | ok a between =>
    rw [left_of_ok h, outcome_of_ok h] at first
    rw [left_congr (bind_of_ok h f), outcome_congr (bind_of_ok h f)]
    rcases first with fresh | ⟨line, found, hp⟩
    · exact hf a between fresh
    · obtain ⟨quiet, hr⟩ := answered line a hp
      exact .inr ⟨line, (quiet between).openQuestion? found, hr between⟩
  | error fault between =>
    have h' : (x >>= f) c = .error fault between := bind_eq_error.mpr (.inl h)
    rw [left_of_error h, outcome_of_error h] at first
    rw [left_of_error h', outcome_of_error h']
    exact first.imp id fun ⟨line, found, hp⟩ => ⟨line, found, failed line fault hp⟩

/-- A step that asks nothing. -/
theorem after {x : Dialogue α} {f : α → Dialogue β} (hx : x.AsksNothing)
    (hf : ∀ a, (f a).RunsOut R) : (x >>= f).RunsOut R :=
  bind (hx.runsOut fun _ _ => False) hf (fun _ _ => False.elim) fun _ _ => False.elim

/-- What is done about a fault asks nothing. -/
theorem tryCatch {Q : String → Except Fault α → Prop} {x : Dialogue α} {handle : Fault → Dialogue α}
    (hx : x.RunsOut P) (quiet : ∀ fault, (handle fault).AsksNothing)
    (answered : ∀ line a, P line (.ok a) → Q line (.ok a))
    (handled : ∀ line fault, P line (.error fault) → ∀ c, Q line ((handle fault).outcome c)) :
    (tryCatch x handle).RunsOut Q := by
  intro c fresh
  have caught := tryCatch_apply x handle c
  have first := hx c fresh
  cases h : x c with
  | ok a after =>
    rw [h] at caught
    rw [left_of_ok h, outcome_of_ok h] at first
    rw [left_of_ok caught, outcome_of_ok caught]
    exact first.imp id fun ⟨line, found, hp⟩ => ⟨line, found, answered line a hp⟩
  | error fault after =>
    rw [h] at caught
    rw [left_of_error h, outcome_of_error h] at first
    have same : (MonadExcept.tryCatch x handle) c = handle fault after := caught
    rw [left_congr same, outcome_congr same]
    rcases first with fresh | ⟨line, found, hp⟩
    · exact .inl ((quiet fault after).starvedAt.trans fresh)
    · exact .inr ⟨line, (quiet fault after).openQuestion? found, handled line fault hp after⟩

end RunsOut

/-- If a question of a dialogue finds no answer, the dialogue ends in the fault for its line. -/
abbrev Breaks (faultAt : String → Fault) (x : Dialogue α) : Prop :=
  x.RunsOut fun line end' => end' = .error (faultAt line)

namespace Breaks

variable {faultAt : String → Fault}

theorem bind {x : Dialogue α} {f : α → Dialogue β} (hx : x.Breaks faultAt)
    (hf : ∀ a, (f a).Breaks faultAt) : (x >>= f).Breaks faultAt :=
  RunsOut.bind hx hf (fun _ _ e => congrArg _ (Except.error.inj e)) nofun

/-- The last question of a dialogue. -/
theorem last {x : Dialogue α} {f : α → Dialogue β} (hx : x.Breaks faultAt)
    (hf : ∀ a, (f a).AsksNothing) : (x >>= f).Breaks faultAt :=
  hx.bind fun a => (hf a).runsOut _

theorem mapM {f : α → Dialogue β} {xs : List α} (hf : ∀ a ∈ xs, (f a).Breaks faultAt) :
    (xs.mapM f).Breaks faultAt := by
  induction xs with
  | nil => exact (AsksNothing.pure _).runsOut _
  | cons a xs ih =>
    obtain ⟨first, others⟩ := List.forall_mem_cons.mp hf
    rw [List.mapM_cons]
    exact first.bind fun _ => (ih others).last fun _ => .pure _

end Breaks

end Dialogue

end GosuForge
