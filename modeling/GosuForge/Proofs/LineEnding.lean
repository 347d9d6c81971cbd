import GosuForge.Proofs.Lines
import GosuForge.Proofs.WithoutComments
import GosuForge.Proofs.WriteAlike

/-!
# Line endings

A file is made with line feeds, which are written as the line ending of the settings in the end.
With the ending CR LF it is the same file in another encoding.

* `Text.replace`: a text with one word in place of another;
* `Text.withEnding_eq_replace`: the line ending is put in place of every line feed;
* `Text.replace_withEnding`: line feeds in place of every CR LF are what was there before, whatever
  carriage returns the text has;
* `SourceFile.render?_reencoded`: the files of a declaration with the two endings.
-/

namespace GosuForge

namespace Text

/-- Puts `new` in place of every `old` behind the next `passed` characters, which are left out. -/
def replaceFrom (old new : List Char) : Nat → List Char → List Char
  | _, [] => []
  | passed + 1, _ :: cs => replaceFrom old new passed cs
  | 0, c :: cs =>
    if old.isPrefixOf (c :: cs) then new ++ replaceFrom old new (old.length - 1) cs
    else c :: replaceFrom old new 0 cs

/-- The text with `new` in place of every `old`, from the left and without overlaps; `old` is not
empty. -/
def replace (old new s : String) : String :=
  String.ofList (replaceFrom old.toList new.toList 0 s.toList)

/-- What stands between separators is joined by what takes their place. -/
theorem intercalate_splitChars (sep : Char) (new cs : List Char) :
    new.intercalate (splitChars sep cs) = replaceFrom [sep] new 0 cs := by
  induction cs with
  | nil => rfl
  | cons c cs ih =>
    obtain ⟨part, parts, hp⟩ := List.exists_cons_of_ne_nil (splitChars_ne_nil sep cs)
    rw [splitChars, replaceFrom]
    by_cases here : c = sep
    · simp [here, ← ih, hp, List.intercalate]
    · have other : sep ≠ c := Ne.symm here
      rw [hp] at ih
      cases parts <;> simp_all [List.intercalate]

/-- The line ending is put in place of every line feed. -/
theorem withEnding_eq_replace (ending s : String) :
    withEnding ending s = replace "\n" ending s := by
  have parts : (splitLines s).map String.toList = splitChars '\n' s.toList := by
    simp [splitLines, split, Function.comp_def]
  rw [← String.toList_inj, withEnding, toList_join, parts, intercalate_splitChars, replace,
    String.toList_ofList]
  rfl

/-! ## CR LF -/

/-- Every line feed with a carriage return before it. -/
theorem replaceFrom_cons_crlf (c : Char) (cs : List Char) :
    replaceFrom ['\n'] ['\r', '\n'] 0 (c :: cs) =
      (if c = '\n' then ['\r', '\n'] else [c]) ++ replaceFrom ['\n'] ['\r', '\n'] 0 cs := by
  rw [replaceFrom]
  by_cases here : c = '\n'
  · simp [here]
  · have other : '\n' ≠ c := Ne.symm here
    simp [here, other]

/-- What is put there begins with a carriage return, and so with no line feed. -/
theorem not_prefix_crlf (cs : List Char) :
    ['\n'].isPrefixOf (replaceFrom ['\n'] ['\r', '\n'] 0 cs) = false := by
  cases cs with
  | nil => rfl
  | cons c cs =>
    rw [replaceFrom_cons_crlf]
    split
    · rfl
    · rename_i other
      simp [List.isPrefixOf, Ne.symm other]

theorem replaceFrom_crlf (cs : List Char) :
    replaceFrom ['\r', '\n'] ['\n'] 0 (replaceFrom ['\n'] ['\r', '\n'] 0 cs) = cs := by
  induction cs with
  | nil => rfl
  | cons c cs ih =>
    rw [replaceFrom_cons_crlf]
    split
    · rename_i here
      simp [replaceFrom, List.isPrefixOf, ih, here]
    · -- A carriage return of the text stays: what follows it is no line feed.
      have kept : ['\r', '\n'].isPrefixOf (c :: replaceFrom ['\n'] ['\r', '\n'] 0 cs) = false := by
        rw [List.isPrefixOf, not_prefix_crlf, Bool.and_false]
      rw [List.singleton_append, replaceFrom, kept, if_neg Bool.false_ne_true, ih]

theorem replace_withEnding (s : String) : replace "\r\n" "\n" (withEnding "\r\n" s) = s := by
  have feed : "\n".toList = ['\n'] := rfl
  have returned : "\r\n".toList = ['\r', '\n'] := rfl
  rw [withEnding_eq_replace, replace, replace, feed, returned, String.toList_ofList,
    replaceFrom_crlf, String.ofList_toList]

/-- A carriage return stands before every line feed. -/
def FeedsReturned (s : String) : Prop :=
  ∀ before after, s.toList = before ++ '\n' :: after → ∃ front, before = front ++ ['\r']

theorem feedsReturned_withEnding (s : String) : FeedsReturned (withEnding "\r\n" s) := by
  rw [withEnding_eq_replace, FeedsReturned, replace, String.toList_ofList]
  generalize s.toList = cs
  intro before after e
  change replaceFrom ['\n'] ['\r', '\n'] 0 cs = _ at e
  induction cs generalizing before with
  | nil => simp [replaceFrom] at e
  | cons c cs ih =>
    rw [replaceFrom_cons_crlf] at e
    split at e
    · -- The line feed is the one just put there, or one behind it.
      match before with
      | [] => simp at e
      | [d] =>
        obtain ⟨rfl, -⟩ := List.cons.inj e
        exact ⟨[], rfl⟩
      | d :: d' :: before =>
        simp only [List.cons_append, List.nil_append, List.cons.injEq] at e
        obtain ⟨rfl, rfl, e⟩ := e
        obtain ⟨front, rfl⟩ := ih before e
        exact ⟨'\r' :: '\n' :: front, rfl⟩
    · rename_i other
      cases before with
      | nil => simp [other] at e
      | cons d before =>
        simp only [List.cons_append, List.nil_append, List.cons.injEq] at e
        obtain ⟨front, rfl⟩ := ih before e.2
        exact ⟨d :: front, rfl⟩

end Text

/-! ## Files -/

/-- The settings with a line ending. -/
def GosuSettings.ended (g : GosuSettings) (ending : String) : GosuSettings :=
  { g with general := g.general.set (.str ending) .lineEnding }

/-- No line of a declaration hangs on the line ending. -/
theorem Declaration.script_ended (r : Repository) (g : GosuSettings) (ending : String)
    (form : DeclarationForm) (id : ElementId) :
    script r (g.ended ending) form id = script r g form id := by
  refine script_congr (fun form id nested => ?_) form id
  cases form <;> rfl

namespace SourceFile

open Inspection

/-- The content of a file with line feeds, and with CR LF in their place. -/
def Reencoded (feeds returned : Option String) : Prop :=
  feeds.isSome = returned.isSome ∧ ∀ lf ∈ feeds, ∀ crlf ∈ returned,
    Text.FeedsReturned crlf ∧ Text.replace "\r\n" "\n" crlf = lf

/-- Both endings are written in every text. -/
theorem endLines_reencoded (content : String) :
    Outcome.Alike (fun lf crlf => Reencoded (some lf) (some crlf)) (endLines (.str "\n") content)
      (endLines (.str "\r\n") content) := by
  refine ⟨rfl, fun lf hl crlf hc => ?_⟩
  cases hl
  cases hc
  exact ⟨Text.feedsReturned_withEnding content, Text.replace_withEnding content⟩

/-- Up to the last step the file is the same. -/
theorem render?_runAlike (r : Repository) (g : GosuSettings) (template : Option Template)
    (root : Option ElementId) (id : ElementId) (m : Model) :
    RunAlike m Reencoded (render? r (g.ended "\n") template root id)
      (render? r (g.ended "\r\n") template root id) := by
  have without : Reencoded none none := ⟨rfl, nofun⟩
  refine .look fun before _ => ?_
  dsimp only
  split
  · exact .pure without
  · rename_i form _
    split
    · exact .pure without
    · rw [Declaration.script_ended, Declaration.script_ended]
      refine .check fun indentText _ => .after (Declaration.script_keeps r g form id) fun script =>
        .check fun writer _ => .check fun path _ => .check fun packageName _ =>
          .check fun content _ => ?_
      exact RunAlike.bind (.lift (endLines_reencoded content)) fun _ _ h => .pure h

/-- **A line ending is an encoding of the line feeds and nothing else.** With the endings LF and
CR LF a declaration has a file under both or under neither, the same fault keeps it from being
made, and the model is the same afterwards. In the file with CR LF a carriage return stands before
every line feed, and LF in place of every CR LF gives the file with LF, whatever carriage returns
its texts have. -/
theorem render?_reencoded (r : Repository) (g : GosuSettings) (template : Option Template)
    (root : Option ElementId) (id : ElementId) (m : Model) :
    ((render? r (g.ended "\r\n") template root id).runIn m).2 =
        ((render? r (g.ended "\n") template root id).runIn m).2 ∧
      Outcome.Alike Reencoded
        ((render? r (g.ended "\n") template root id).answerIn m)
        ((render? r (g.ended "\r\n") template root id).answerIn m) := by
  have alike := render?_runAlike r g template root id m m (.refl m)
  exact ⟨alike.2.1, alike.2.2⟩

end SourceFile

end GosuForge
