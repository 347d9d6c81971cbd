import GosuForge.Proofs.Exhaustion
import GosuForge.Proofs.Program
import GosuForge.Storage.Listing

/-!
# Programs that run out of answers

A program whose answers end before its questions do is cancelled only at two of them: when the element
or the folder is asked for. At any other question the end of the answers ends it.

* `Program.targetQuestions`: the questions that may be dismissed;
* `Program.breaks_selectElement`, `Program.breaks_selectFolder`, `Program.breaks_configure`: the fault
  that a question ends in;
* `Program.ends_unanswered`: the end of a program that has an open question.
-/

namespace GosuForge

open Dialogue
open Text (EndsInMark)

namespace Program

/-- The questions for the element and for the folder. -/
def targetQuestions : List String :=
  ["Select element (c to cancel)", "Select a folder where generated codes to be located"]

/-- What the line of an open question makes of a dialogue. -/
def faultAt (line : String) : Fault :=
  if line ∈ targetQuestions then .cancelled .dismissed else .endOfInput

theorem lastLine?_of_mem_targetQuestions :
    ∀ question ∈ targetQuestions, Markup.lastLine? question = some question := by
  rw [targetQuestions, List.forall_mem_cons, List.forall_mem_singleton]
  exact ⟨rfl, rfl⟩

theorem not_mem_targetQuestions {line : String} (h : EndsInMark line.toList) :
    line ∉ targetQuestions := by
  have unmarked : ∀ question ∈ targetQuestions, question.toList.getLast? ≠ some '?' := by
    decide
  exact fun target => unmarked line target h

/-! ## Questions -/

section

variable {α : Type} (read : String → Option α) (default : α)

/-- The question for an element or a folder may be dismissed. -/
theorem breaks_orDismiss {question : String} (h : question ∈ targetQuestions) :
    (orDismiss (ask question read default)).Breaks faultAt := by
  refine (runsOut_ask question read default).tryCatch (fun fault => ?_) (fun _ _ => nofun) ?_
  · cases fault <;> exact .throw _
  · rintro line fault ⟨shown, e⟩ c
    cases e
    have same := Option.some.inj ((lastLine?_of_mem_targetQuestions question h).symm.trans shown)
    rw [faultAt, if_pos (same ▸ h)]
    rfl

/-- Any other question may not. -/
theorem breaks_ask {question : String}
    (h : ∀ line, Markup.lastLine? question = some line → line ∉ targetQuestions) :
    (ask question read default).Breaks faultAt := by
  refine (runsOut_ask question read default).imp ?_
  rintro line end' ⟨shown, rfl⟩
  rw [faultAt, if_neg (h line shown)]

/-- Such as one that ends with a question mark. -/
theorem breaks_ask_of_mark {question : String} (h : EndsInMark question.toList) :
    (ask question read default).Breaks faultAt :=
  breaks_ask read default fun _ shown => not_mem_targetQuestions (Markup.mark_lastLine? h shown)

end

theorem not_mem_targetQuestions_of_panel : ∀ p ∈ Preference.panel,
    ∀ line ∈ Markup.lastLine? p.description, line ∉ targetQuestions := by
  decide

/-! ## Selecting and editing -/

theorem breaks_selectElement (m : Model) (root : ElementId) :
    (selectElement m root).Breaks faultAt := by
  refine .after (.ofExcept _) fun candidates => ?_
  split
  · exact (AsksNothing.bind (asksNothing_print _) fun _ => .throw _).runsOut _
  · refine .after (.ofExcept _) fun columns => .after (asksNothing_printTable _) fun _ =>
      Breaks.last (breaks_orDismiss _ _ (by decide)) fun choice => ?_
    split
    · exact .throw _
    · split
      · exact .pure _
      · exact .throw _

theorem asksNothing_expandHome (path : Path) : (expandHome path).AsksNothing := by
  refine AsksNothing.get.bind fun console => ?_
  split
  · split
    · split
      · split
        · exact .pure _
        · exact .throw _
      · exact .throw _
    · exact .pure _
  · exact .pure _

theorem asksNothing_folderText (answer : Value) : (folderText answer).AsksNothing := by
  cases answer <;> first | exact .pure _ | exact .throw _

theorem asksNothing_makeFolder (path : Path) : (makeFolder path).AsksNothing := by
  unfold makeFolder
  split
  · exact .throw _
  · exact asksNothing_disk.bind fun _ => (asksNothing_setDisk _).bind fun _ => .ofExcept _

/-- Whether to make a folder is a question of its own, which may not be dismissed. -/
theorem breaks_selectFolder (default : Value) : (selectFolder default).Breaks faultAt := by
  refine Breaks.bind (breaks_orDismiss _ _ (by decide)) fun answer =>
    .after (asksNothing_folderText answer) fun folder => ?_
  split
  · exact (AsksNothing.throw _).runsOut _
  · refine .after (asksNothing_expandHome _) fun path => .after asksNothing_disk fun disk =>
      .after (.ofExcept _) fun isThere => ?_
    split
    · exact (AsksNothing.pure _).runsOut _
    · have marked : EndsInMark ("Folder [cyan]" ++ path.toString
          ++ "[/cyan] does not exist. Create it?").toList := by
        rw [String.toList_append]
        exact EndsInMark.append (by decide) _
      refine Breaks.last (breaks_ask_of_mark _ _ marked) fun wanted => ?_
      split
      · exact (asksNothing_makeFolder path).bind fun _ => .pure _
      · exact .throw _

theorem breaks_askPreference (s : Settings) {p : Preference} (h : p ∈ Preference.panel) :
    (askPreference s p).Breaks faultAt := by
  have other := not_mem_targetQuestions_of_panel p h
  refine .after (.ofExcept _) fun current => ?_
  split
  · exact Breaks.last (breaks_ask _ _ other) fun _ => .pure _
  · exact Breaks.last (breaks_ask _ _ other) fun _ => .pure _

theorem breaks_askAuthor (s : Settings) : (askAuthor s).Breaks faultAt := by
  have other : ∀ line, Markup.lastLine? "Author (blank for none)" = some line →
      line ∉ targetQuestions := by
    rintro line shown
    have same : Markup.lastLine? "Author (blank for none)" = some "Author (blank for none)" := by
      rfl
    rw [← Option.some.inj (same.symm.trans shown)]
    decide
  refine Breaks.last (breaks_ask _ _ other) fun answer => ?_
  split
  · exact .pure _
  · exact .throw _

theorem asksNothing_currentSettings (path : Path) : (currentSettings path).AsksNothing :=
  asksNothing_disk.bind fun _ => .bind (.ofExcept _) fun _ => .ofExcept _

theorem asksNothing_saveSettings (s : Settings) (path : Path) : (saveSettings s path).AsksNothing :=
  asksNothing_disk.bind fun _ => .bind (.ofExcept _) fun _ => asksNothing_setDisk _

/-- None of the questions about the preferences may be dismissed. -/
theorem breaks_configure (path : Path) : (Dialogue.configure path).Breaks faultAt := by
  refine .after (asksNothing_currentSettings path) fun settings => .after (.ofExcept _) fun columns =>
    .after (asksNothing_printTable columns) fun _ =>
    Breaks.bind (.mapM fun p => breaks_askPreference settings) fun values =>
    Breaks.bind (breaks_askAuthor settings) fun author => ?_
  have marked : EndsInMark
      ("Save preferences to [cyan]" ++ path.toString ++ "[/cyan]?").toList := by
    rw [String.toList_append]
    exact EndsInMark.append (by decide) _
  refine .after (.ofExcept _) fun warnings => .after (.forM fun _ => asksNothing_print _) fun _ =>
    Breaks.last (breaks_ask_of_mark _ _ marked) fun wanted => ?_
  split
  · exact (asksNothing_saveSettings _ _).bind fun _ => (asksNothing_print _).bind fun _ => .pure _
  · exact .throw _

/-! ## Parts of a command -/

section

variable {α β : Type}

/-- What the line of an open question makes of a command, where a cancellation has an outcome. -/
def endAt (cancelled : α) (line : String) : Except Fault α :=
  if line ∈ targetQuestions then .ok cancelled else .error .endOfInput

/-- If a question finds no answer, it hangs on its line whether that is a cancellation. -/
abbrev Concludes (cancelled : α) (x : Dialogue α) : Prop :=
  x.RunsOut fun line end' => end' = endAt cancelled line

theorem of_endAt_eq_ok {cancelled a : α} {line : String} (h : .ok a = endAt cancelled line) :
    a = cancelled ∧ line ∈ targetQuestions := by
  unfold endAt at h
  split at h
  · exact ⟨Except.ok.inj h, ‹_›⟩
  · cases h

theorem of_endAt_eq_error {cancelled : α} {fault : Fault} {line : String}
    (h : .error fault = endAt cancelled line) : fault = .endOfInput ∧ line ∉ targetQuestions := by
  unfold endAt at h
  split at h
  · cases h
  · exact ⟨Except.error.inj h, ‹_›⟩

namespace Concludes

variable {x : Dialogue α} {cancelled : α}

/-- What comes after such a dialogue asks nothing. -/
theorem bind {f : α → Dialogue β} {after : β} (hx : Concludes cancelled x)
    (hf : ∀ a, (f a).AsksNothing) (goesOn : ∀ c, (f cancelled).outcome c = .ok after) :
    Concludes after (x >>= f) := by
  refine RunsOut.bind hx (fun a => (hf a).runsOut _) (fun line fault e => ?_) fun line a e => ?_
  · obtain ⟨rfl, other⟩ := of_endAt_eq_error e
    rw [endAt, if_neg other]
  · obtain ⟨rfl, target⟩ := of_endAt_eq_ok e
    refine ⟨hf _, fun c => ?_⟩
    rw [goesOn c, endAt, if_pos target]

/-- A dialogue whose cancellation is caught. -/
theorem of_breaks {handle : Fault → Dialogue α} (hx : x.Breaks faultAt)
    (quiet : ∀ fault, (handle fault).AsksNothing)
    (dismissed : ∀ c, (handle (.cancelled .dismissed)).outcome c = .ok cancelled)
    (rethrown : ∀ c, (handle .endOfInput).outcome c = .error .endOfInput) :
    Concludes cancelled (tryCatch x handle) := by
  refine hx.tryCatch quiet (fun _ _ => nofun) fun line fault e c => ?_
  cases e
  unfold faultAt endAt
  split
  · exact dismissed c
  · exact rethrown c

theorem tryCatch {handle : Fault → Dialogue α} (hx : Concludes cancelled x)
    (quiet : ∀ fault, (handle fault).AsksNothing)
    (rethrown : ∀ c, (handle .endOfInput).outcome c = .error .endOfInput) :
    Concludes cancelled (tryCatch x handle) := by
  refine RunsOut.tryCatch hx quiet (fun _ _ => id) fun line fault e c => ?_
  obtain ⟨rfl, other⟩ := of_endAt_eq_error e
  rw [rethrown c, endAt, if_neg other]

end Concludes

theorem asksNothing_attempt {x : Attempt α} {f : α → Attempt β} (hx : AsksNothing x.run)
    (hf : ∀ a, AsksNothing (f a).run) : AsksNothing (x >>= f).run := by
  refine hx.bind fun outcome => ?_
  cases outcome with
  | ok a => exact hf a
  | error c => exact .pure _

theorem runsOut_attempt {P : String → Except Fault (Except Complaint β) → Prop} {x : Attempt α}
    {f : α → Attempt β} (hx : AsksNothing x.run) (hf : ∀ a, RunsOut P (f a).run) :
    RunsOut P (x >>= f).run := by
  refine .after hx fun outcome => ?_
  cases outcome with
  | ok a => exact hf a
  | error c => exact (AsksNothing.pure _).runsOut _

theorem asksNothing_ofDialogue {x : Dialogue α} (h : x.AsksNothing) :
    AsksNothing (ofDialogue x).run := h.bind fun _ => .pure _

theorem asksNothing_sorted (complaint? : Fault → Option Complaint) (outcome : Except Fault α) :
    AsksNothing (sorted complaint? outcome).run := by
  unfold sorted
  split
  · exact .pure _
  · split
    · exact .pure _
    · exact asksNothing_ofDialogue (.throw _)

end

theorem asksNothing_settingsFor (o : GenerateOptions) (author : Value) :
    AsksNothing (settingsFor o author).run :=
  asksNothing_attempt (asksNothing_ofDialogue asksNothing_disk) fun _ =>
    asksNothing_attempt (asksNothing_sorted _ _) fun _ => .pure _

theorem asksNothing_namedRoot (o : GenerateOptions) (loaded : LoadedModel) :
    AsksNothing (namedRoot o loaded).run := by
  unfold namedRoot
  split
  · exact .pure _
  · refine asksNothing_attempt (asksNothing_ofDialogue (.ofExcept _)) fun found => ?_
    split
    · exact .pure _
    · exact .pure _

theorem asksNothing_report (o : GenerateOptions) (result : GenerationResult)
    (files : Option (Memory String)) : (report o result files).AsksNothing := by
  have listed : (listFiles result files).AsksNothing := by
    unfold listFiles
    split
    · exact .forM fun path => .bind (.ofExcept _) fun _ => asksNothing_printLines _
    · exact .forM fun path => asksNothing_print _
  have told : (tellMore o result).AsksNothing := by
    unfold tellMore
    split
    · exact asksNothing_printTable _
    · exact .pure _
  have counted : (reportWritten result).AsksNothing := by
    unfold reportWritten
    split
    · exact asksNothing_printLines _
    · exact .pure _
  rw [report_eq]
  split
  · exact listed.bind fun _ => (asksNothing_print _).bind fun _ => told.bind fun _ => .pure _
  · exact (asksNothing_print _).bind fun _ => counted.bind fun _ => .pure _

/-- Once it is known what goes where, nothing more is asked. -/
theorem asksNothing_generateTo (o : GenerateOptions) (loaded : LoadedModel) (settings : Settings)
    (root : ElementId) (path : Path) :
    AsksNothing (generateTo o loaded settings root path).run := by
  rw [generateTo_eq]
  refine asksNothing_attempt (asksNothing_ofDialogue asksNothing_disk) fun disk =>
    asksNothing_attempt ?_ fun isThere => ?_
  · unfold folderStands
    split
    · exact .pure _
    · exact asksNothing_ofDialogue (.ofExcept _)
  · split
    · exact .pure _
    · refine asksNothing_attempt (asksNothing_sorted _ _) fun generator =>
        asksNothing_ofDialogue ((asksNothing_flash _).bind fun _ => ?_)
      split
      · exact asksNothing_report _ _ _
      · exact asksNothing_disk.bind fun _ => (asksNothing_setDisk _).bind fun _ =>
          asksNothing_report _ _ _

theorem breaks_selectTarget (o : GenerateOptions) (loaded : LoadedModel) (root : Option ElementId)
    (settings : Settings) : (selectTarget o loaded root settings).Breaks faultAt := by
  have element : (elementOr loaded root).Breaks faultAt := by
    cases root with
    | none => exact breaks_selectElement _ _
    | some id => exact (AsksNothing.pure id).runsOut _
  have folder : (folderFor o settings).Breaks faultAt := by
    unfold folderFor
    dsimp only
    split
    · exact (AsksNothing.pure _).runsOut _
    · split
      · exact (AsksNothing.pure _).runsOut _
      · exact breaks_selectFolder _
  rw [selectTarget_eq]
  exact element.bind fun _ => folder.last fun _ => .pure _

theorem concludes_chooseTarget (o : GenerateOptions) (loaded : LoadedModel)
    (root : Option ElementId) (settings : Settings) :
    Concludes (.error .dismissed) (chooseTarget o loaded root settings) := by
  refine .of_breaks ?_ (fun fault => ?_) (fun _ => rfl) (fun _ => rfl)
  · exact (breaks_selectTarget o loaded root settings).last fun _ => .pure _
  · cases fault <;> first | exact .pure _ | exact .throw _

/-! ## Commands -/

theorem concludes_generate (o : GenerateOptions) : Concludes (.ok 2) (generate o).run := by
  rw [generate_eq]
  refine runsOut_attempt (asksNothing_ofDialogue asksNothing_disk) fun disk =>
    runsOut_attempt (asksNothing_sorted _ _) fun loaded =>
    runsOut_attempt (asksNothing_settingsFor o loaded.author) fun settings =>
    runsOut_attempt (asksNothing_namedRoot o loaded) fun root => ?_
  have quiet (reason : Cancellation) : AsksNothing (ofDialogue (cancel reason)).run :=
    asksNothing_ofDialogue ((asksNothing_print _).bind fun _ => .pure _)
  have chosen : Concludes (.ok (.error .dismissed))
      (ofDialogue (chooseTarget o loaded root settings)).run :=
    (concludes_chooseTarget o loaded root settings).bind (fun _ => .pure _) fun _ => rfl
  have shown : (Markup.plain ("[yellow]⚠️  "
      ++ (GenerationResult.dismissed (.str Cancellation.dismissed.reason)).errorMessage.display
      ++ "[/yellow]")).toBool = true := by rfl
  have said (c : Console) : outcome (ofDialogue (cancel .dismissed)).run c = .ok (.ok 2) := by
    obtain ⟨_, after, e⟩ := returns_print shown c
    have cancelled : cancel .dismissed c = .ok 2 after := bind_of_ok e _
    exact outcome_of_ok (ofDialogue_of_ok cancelled)
  refine chosen.bind (fun outcome => ?_) said
  cases outcome with
  | error c => exact .pure _
  | ok target =>
    cases target with
    | error reason => exact quiet reason
    | ok target => exact asksNothing_generateTo o loaded settings target.1 target.2

theorem breaks_editPreferences (path : Path) : (editPreferences path).Breaks faultAt := by
  have edited : Dialogue.Breaks faultAt (Dialogue.configure path >>= fun settings =>
      pure (.ok settings : Except Complaint Settings)) :=
    (breaks_configure path).last fun _ => .pure _
  refine edited.tryCatch (fun fault => ?_) (fun _ _ => nofun) fun line fault e c => ?_
  · split
    · exact .pure _
    · exact .throw _
  · cases e
    by_cases target : line ∈ targetQuestions
    · rw [faultAt, if_pos target]
      rfl
    · rw [faultAt, if_neg target]
      rfl

theorem breaks_preferences (config : Option String) :
    Dialogue.Breaks faultAt (configure config).run := by
  rw [configure_eq]
  refine runsOut_attempt (asksNothing_ofDialogue (.ofExcept _)) fun path => ?_
  have edited : Dialogue.Breaks faultAt (ofDialogue (editPreferences path)).run :=
    (breaks_editPreferences path).last fun _ => .pure _
  refine edited.last fun outcome => ?_
  rcases outcome with c | c | settings
  · exact .pure _
  · exact .pure _
  · exact .pure _

theorem asksNothing_languages : AsksNothing languages.run :=
  asksNothing_attempt (asksNothing_ofDialogue (.ofExcept _)) fun _ =>
    asksNothing_attempt (asksNothing_ofDialogue (asksNothing_printLines _)) fun _ => .pure _

/-- What becomes of a fault that a command ends in. -/
def handled (fault : Fault) : Dialogue (Except Complaint Nat) :=
  match fault with
  | .cancelled reason => do
    print ("[yellow]⚠️  Cancelled:[/yellow] " ++ reason.reason)
    pure (.ok 2)
  | fault => throw fault

theorem performed_eq (command : Command) :
    performed command = tryCatch (perform command).run handled := rfl

theorem asksNothing_handled (fault : Fault) : (handled fault).AsksNothing := by
  cases fault with
  | cancelled reason => exact (asksNothing_print _).bind fun _ => .pure _
  | _ => exact .throw _

theorem outcome_handled_dismissed (c : Console) :
    (handled (.cancelled .dismissed)).outcome c = .ok (.ok 2) := by
  have shown : (Markup.plain ("[yellow]⚠️  Cancelled:[/yellow] "
      ++ Cancellation.dismissed.reason)).toBool = true := by rfl
  obtain ⟨_, after, e⟩ := returns_print shown c
  exact outcome_of_ok (bind_of_ok e _)

/-- A cancellation is the same whether a command ends as one or is told of as one. -/
theorem concludes_performed (command : Command) : Concludes (.ok 2) (performed command) := by
  have caught {x : Dialogue (Except Complaint Nat)} (hx : x.Breaks faultAt) :
      Concludes (.ok 2) (tryCatch x handled) :=
    .of_breaks hx asksNothing_handled outcome_handled_dismissed fun _ => rfl
  rw [performed_eq]
  cases command with
  | generate o => exact (concludes_generate o).tryCatch asksNothing_handled fun _ => rfl
  | configure config => exact caught (breaks_preferences config)
  | languages => exact caught (asksNothing_languages.runsOut _)
  | nothing =>
    have usage : AsksNothing (perform .nothing).run :=
      asksNothing_attempt (asksNothing_ofDialogue (asksNothing_printLines _)) fun _ => .pure _
    exact caught (usage.runsOut _)

theorem concludes_performOrComplain (isBrief : Bool) (command : Command) :
    Concludes 2 (performOrComplain isBrief command) := by
  rw [performOrComplain_eq]
  refine (concludes_performed command).bind (fun outcome => ?_) fun _ => rfl
  split
  · exact .pure _
  · exact (asksNothing_print _).bind fun _ => .pure _

theorem concludes_run (isBrief : Bool) (args : List String) :
    Concludes (.returned 2) (run isBrief args) := by
  rcases parsed : Command.ofArguments args with reason | command
  · rw [run_of_stop isBrief parsed]
    exact (AsksNothing.pure _).runsOut _
  · rw [run_of_command isBrief parsed]
    exact (concludes_performOrComplain isBrief command).bind (fun _ => .pure _) fun _ => rfl

/-- **A program that runs out of answers** has an open question, and it is cancelled, with the code of a
cancellation, exactly if that is the question for the element or for the folder. At any other question
the end of the answers ends it. -/
theorem ends_unanswered (isBrief : Bool) (args : List String) {console : Console}
    (fresh : console.starvedAt = none)
    (unanswered : ((run isBrief args).left console).starvedAt ≠ none) :
    ∃ line, ((run isBrief args).left console).openQuestion? = some line ∧
      (run isBrief args).outcome console =
        if line ∈ targetQuestions then .ok (.returned 2) else .error .endOfInput :=
  (concludes_run isBrief args console fresh).resolve_left unanswered

/-! ## A folder that is not named, and preferences that are not answered -/

/-- A console with a model file and no answers. -/
def silent : Console :=
  .new [] (Disk.empty.install [] [("m.json", "\x7b\"kind\": \"class\", \"name\": \"A\"\x7d")])

theorem ends_unanswered_silent :
    ((run false ["generate", "m.json", "--root", "A"]).left silent).starvedAt ≠ none ∧
    ∃ line, ((run false ["generate", "m.json", "--root", "A"]).left silent).openQuestion? = some line ∧
      (run false ["generate", "m.json", "--root", "A"]).outcome silent =
        if line ∈ targetQuestions then .ok (.returned 2) else .error .endOfInput := by
  have unanswered :
      ((run false ["generate", "m.json", "--root", "A"]).left silent).starvedAt ≠ none := by
    decide +kernel
  exact ⟨unanswered, ends_unanswered false _ rfl unanswered⟩

/-- Preferences may not be dismissed: the end of the answers is a fault there. -/
theorem endOfInput_of_configure_silent :
    ((run false ["configure"]).left silent).starvedAt ≠ none ∧
      (run false ["configure"]).outcome silent = .error .endOfInput := by
  have ended : (((run false ["configure"]).left silent).starvedAt.isSome &&
      !((run false ["configure"]).outcome silent).toBool) = true := by
    decide +kernel
  obtain ⟨starved, failed⟩ := (Bool.and_eq_true _ _).mp ended
  have unanswered := Option.isSome_iff_ne_none.mp starved
  obtain ⟨line, -, end'⟩ := (concludes_run false ["configure"] silent rfl).resolve_left unanswered
  rcases outcome : (run false ["configure"]).outcome silent with fault | answer
  · rw [outcome] at end'
    rw [(of_endAt_eq_error end').1]
    exact ⟨unanswered, rfl⟩
  · rw [outcome] at failed
    cases failed

end Program

end GosuForge
