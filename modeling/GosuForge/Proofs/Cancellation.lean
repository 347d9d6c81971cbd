import GosuForge.Proofs.Program
import GosuForge.Storage.Listing

/-!
# Cancelled commands and dry runs

Every prompt at which the user can cancel comes before anything is done to the disk, and a folder that
is made on the way is made after the last of them.

* `Program.untouched_selectTarget`, `Program.completes_generateTo`: what may be cancelled, and what
  comes after it;
* `Program.leavesDisk_generate`: a dry run does nothing to the disk;
* `Program.cancelled_leaves_disk`: neither does a program that ends with the code of a cancellation.
-/

namespace GosuForge

open Outcome (Uncancelled)

theorem Disk.uncancelled_isDirectory? (d : Disk) (path : Path) :
    Uncancelled (d.isDirectory? path) := by
  refine Outcome.Uncancelled.map ?_ _
  intro reason
  unfold find
  split
  · nofun
  · split <;> nofun

theorem Registry.uncancelled_create (r : Registry) (name : Value) (source : SettingsSource)
    (disk : Disk) : Uncancelled (r.create name source disk) := by
  have resolved : Uncancelled (r.resolve name) := by
    refine .bind ?_ fun key => ?_
    · cases name <;> nofun
    · intro reason
      split
      · nofun
      · split <;> nofun
  have known (language : String) : Uncancelled (r.kindOf language) := by
    intro reason
    unfold kindOf
    split <;> nofun
  -- Whatever goes wrong after that is put down to the making of the generator.
  exact resolved.bind fun language => (known language).bind fun kind => .mapError _ nofun

namespace Dialogue

/-! ## Selecting and editing -/

theorem leavesDisk_selectElement (m : Model) (root : ElementId) :
    (selectElement m root).LeavesDisk := by
  refine .bind (.ofExcept _) fun candidates => ?_
  split
  · exact .bind (shows_print _).leavesDisk fun _ => .throw _
  · refine .bind (.ofExcept _) fun columns => .bind (shows_printTable _).leavesDisk fun _ =>
      .bind (leavesDisk_orDismiss (leavesDisk_ask _ _ _)) fun choice => ?_
    split
    · exact .throw _
    · split
      · exact .pure _
      · exact .throw _

theorem leavesDisk_expandHome (path : Path) : (expandHome path).LeavesDisk := by
  refine LeavesDisk.get.bind fun console => ?_
  split
  · split
    · split
      · split
        · exact .pure _
        · exact .throw _
      · exact .throw _
    · exact .pure _
  · exact .pure _

theorem leavesDisk_folderText (answer : Value) : (folderText answer).LeavesDisk := by
  cases answer <;> first | exact .pure _ | exact .throw _

/-- A folder that cannot be made is no reason to cancel. -/
theorem completes_makeFolder (path : Path) : (makeFolder path).Completes fun _ => True := by
  unfold makeFolder
  split
  · exact .throw nofun
  · refine completes_disk.seq fun before => ?_
    exact (completes_setDisk _).seq fun _ => .ofExcept (.mapError _ nofun)

/-- A folder is made only after the last question. -/
theorem untouched_selectFolder (default : Value) :
    (selectFolder default).Untouched fun _ => False := by
  refine .after (leavesDisk_orDismiss (leavesDisk_ask _ _ _)) fun answer =>
    .after (leavesDisk_folderText answer) fun folder => ?_
  split
  · exact (LeavesDisk.throw _).untouched _
  · refine .after (leavesDisk_expandHome _) fun path => .after leavesDisk_disk fun disk =>
      .after (.ofExcept _) fun isThere => ?_
    split
    · exact (LeavesDisk.pure _).untouched _
    · refine .after (leavesDisk_ask _ _ _) fun wanted => ?_
      split
      · refine Completes.untouched ?_
        exact (completes_makeFolder path).seq fun _ => .pure id
      · exact (LeavesDisk.throw _).untouched _

theorem leavesDisk_currentSettings (path : Path) : (currentSettings path).LeavesDisk :=
  leavesDisk_disk.bind fun _ => .bind (.ofExcept _) fun _ => .ofExcept _

theorem leavesDisk_askPreference (s : Settings) (p : Preference) :
    (askPreference s p).LeavesDisk := by
  refine .bind (.ofExcept _) fun current => ?_
  split
  · exact .bind (leavesDisk_ask _ _ _) fun _ => .pure _
  · exact .bind (leavesDisk_ask _ _ _) fun _ => .pure _

theorem leavesDisk_askAuthor (s : Settings) : (askAuthor s).LeavesDisk := by
  refine .bind (leavesDisk_ask _ _ _) fun answer => ?_
  split
  · exact .pure _
  · exact .throw _

/-- Settings that cannot be saved leave the disk as it was. -/
theorem untouched_saveSettings (s : Settings) (path : Path) :
    (saveSettings s path).Untouched fun _ => False := by
  refine .after leavesDisk_disk fun disk => .after (.ofExcept _) fun disk => ?_
  exact Completes.untouched ⟨fun _ => id, nofun⟩

/-- Preferences are saved only after the last question. -/
theorem untouched_configure (path : Path) : (configure path).Untouched fun _ => False := by
  refine .after (leavesDisk_currentSettings path) fun settings => .after (.ofExcept _) fun columns =>
    .after (shows_printTable columns).leavesDisk fun _ =>
    .after (.mapM (leavesDisk_askPreference settings)) fun values =>
    .after (leavesDisk_askAuthor settings) fun author => ?_
  refine .after (.ofExcept _) fun warnings => .after (Shows.forM fun _ => shows_print _).leavesDisk fun _ =>
    .after (leavesDisk_ask _ _ _) fun wanted => ?_
  split
  · refine (untouched_saveSettings _ _).bind (fun _ => False.elim) fun _ _ => ?_
    exact (shows_print _).completes.seq fun _ => .pure id
  · exact (LeavesDisk.throw _).untouched _

end Dialogue

namespace Program

open Dialogue

/-! ## The parts of a command -/

theorem leavesDisk_settingsFor (o : GenerateOptions) (author : Value) :
    LeavesDisk (settingsFor o author).run :=
  leavesDisk_attempt (leavesDisk_ofDialogue leavesDisk_disk) fun _ =>
    leavesDisk_attempt (leavesDisk_sorted _ _) fun _ => .pure _

theorem leavesDisk_namedRoot (o : GenerateOptions) (loaded : LoadedModel) :
    LeavesDisk (namedRoot o loaded).run := by
  unfold namedRoot
  split
  · exact .pure _
  · refine leavesDisk_attempt (leavesDisk_ofDialogue (.ofExcept _)) fun found => ?_
    split
    · exact .pure _
    · exact .pure _

theorem leavesDisk_elementOr (loaded : LoadedModel) (root : Option ElementId) :
    (elementOr loaded root).LeavesDisk := by
  cases root with
  | none => exact leavesDisk_selectElement _ _
  | some id => exact .pure id

/-- The element is asked for before the folder is. -/
theorem untouched_selectTarget (o : GenerateOptions) (loaded : LoadedModel) (root : Option ElementId)
    (settings : Settings) : (selectTarget o loaded root settings).Untouched fun _ => False := by
  have folder : (folderFor o settings).Untouched fun _ => False := by
    unfold folderFor
    dsimp only
    split
    · exact (LeavesDisk.pure _).untouched _
    · split
      · exact (LeavesDisk.pure _).untouched _
      · exact untouched_selectFolder _
  rw [selectTarget_eq]
  exact .after (leavesDisk_elementOr loaded root) fun id =>
    folder.bind (fun _ => False.elim) fun _ _ => .pure not_false

theorem leavesDisk_selectTarget {o : GenerateOptions} (dry : o.isDryRun = true)
    (loaded : LoadedModel) (root : Option ElementId) (settings : Settings) :
    (selectTarget o loaded root settings).LeavesDisk := by
  have folder : (folderFor o settings).LeavesDisk := by
    unfold folderFor
    dsimp only
    rw [if_pos dry]
    exact .pure _
  rw [selectTarget_eq]
  exact (leavesDisk_elementOr loaded root).bind fun _ => folder.bind fun _ => .pure _

theorem leavesDisk_cancel (reason : Cancellation) : (cancel reason).LeavesDisk :=
  (shows_print _).leavesDisk.bind fun _ => .pure _

/-! ## Commands -/

theorem leavesDisk_generateInto {o : GenerateOptions} (dry : o.isDryRun = true) (g : Generator)
    (d : Design) (root : ElementId) (path : Path) : (generateInto o g d root path).LeavesDisk := by
  refine (shows_flash _).leavesDisk.bind fun _ => ?_
  rw [if_pos dry]
  exact (shows_report _ _ _).leavesDisk

theorem completes_generateInto (o : GenerateOptions) (g : Generator) (d : Design)
    (root : ElementId) (path : Path) :
    (generateInto o g d root path).Completes fun code => code ≠ 2 := by
  have reported (result : GenerationResult) (files : Option (Memory String)) :
      (report o result files).Completes fun code => code ≠ 2 := by
    refine (completes_report o result files).imp fun code e => ?_
    rw [e]
    split <;> decide
  refine (shows_flash _).completes.seq fun _ => ?_
  split
  · exact reported _ _
  · exact completes_disk.seq fun _ => (completes_setDisk _).seq fun _ => reported _ _

theorem leavesDisk_generateTo {o : GenerateOptions} (dry : o.isDryRun = true) (loaded : LoadedModel)
    (settings : Settings) (root : ElementId) (path : Path) :
    LeavesDisk (generateTo o loaded settings root path).run := by
  rw [generateTo_eq]
  refine leavesDisk_attempt (leavesDisk_ofDialogue leavesDisk_disk) fun disk => ?_
  refine leavesDisk_attempt ?_ fun isThere => ?_
  · rw [folderStands, if_pos dry]
    exact .pure _
  · split
    · exact .pure _
    · exact leavesDisk_attempt (leavesDisk_sorted _ _) fun generator =>
        leavesDisk_ofDialogue (leavesDisk_generateInto dry _ _ _ _)

/-- What comes after the last question is not cancelled. -/
theorem completes_generateTo (o : GenerateOptions) (loaded : LoadedModel) (settings : Settings)
    (root : ElementId) (path : Path) :
    Completes (fun outcome => outcome ≠ .ok 2) (generateTo o loaded settings root path).run := by
  rw [generateTo_eq]
  refine completes_attempt (completes_ofDialogue completes_disk fun _ => id) (fun disk => ?_) nofun
  refine completes_attempt ?_ (fun isThere => ?_) nofun
  · unfold folderStands
    split
    · exact .pure trivial
    · exact completes_ofDialogue (.ofExcept (disk.uncancelled_isDirectory? path)) fun _ => id
  · split
    · exact .pure nofun
    · refine completes_attempt
        (completes_sorted _ (Registry.bundled.uncancelled_create _ _ _)) (fun generator => ?_) nofun
      refine completes_ofDialogue (completes_generateInto o generator _ root path) ?_
      rintro code other ⟨⟩
      exact other rfl

theorem leavesDisk_generate {o : GenerateOptions} (dry : o.isDryRun = true) :
    LeavesDisk (generate o).run := by
  rw [generate_eq]
  refine leavesDisk_attempt (leavesDisk_ofDialogue leavesDisk_disk) fun disk =>
    leavesDisk_attempt (leavesDisk_sorted _ _) fun loaded =>
    leavesDisk_attempt (leavesDisk_settingsFor o loaded.author) fun settings =>
    leavesDisk_attempt (leavesDisk_namedRoot o loaded) fun root =>
    leavesDisk_attempt (leavesDisk_ofDialogue ?_) fun chosen => ?_
  · refine .tryCatch ((leavesDisk_selectTarget dry _ _ _).bind fun _ => .pure _) fun fault => ?_
    split
    · exact .pure _
    · exact .throw _
  · split
    · exact leavesDisk_ofDialogue (leavesDisk_cancel _)
    · exact leavesDisk_generateTo dry _ _ _ _

theorem untouched_chooseTarget (o : GenerateOptions) (loaded : LoadedModel)
    (root : Option ElementId) (settings : Settings) :
    (chooseTarget o loaded root settings).Untouched fun chosen => ∃ reason, chosen = .error reason := by
  refine .tryCatch ?_ (fun reason => (LeavesDisk.pure _).untouched _) fun fault other => ?_
  · refine (untouched_selectTarget o loaded root settings).bind (fun _ => False.elim) fun _ _ => ?_
    exact .pure fun ⟨_, e⟩ => nomatch e
  · cases fault with
    | cancelled reason => exact absurd rfl (other reason)
    | _ => exact .throw other

/-- A run of `generate` that ends as cancelled has done nothing. -/
theorem untouched_generate (o : GenerateOptions) :
    Untouched (fun outcome => outcome = .ok 2) (generate o).run := by
  rw [generate_eq]
  refine untouched_attempt (leavesDisk_ofDialogue leavesDisk_disk) fun disk =>
    untouched_attempt (leavesDisk_sorted _ _) fun loaded =>
    untouched_attempt (leavesDisk_settingsFor o loaded.author) fun settings =>
    untouched_attempt (leavesDisk_namedRoot o loaded) fun root => ?_
  have chosen := untouched_ofDialogue (untouched_chooseTarget o loaded root settings)
    (Q := fun outcome => ∃ reason, outcome = .ok (.error reason))
    fun chosen ⟨reason, e⟩ => ⟨reason, Except.ok.inj e⟩
  refine untouched_attempt_bind chosen (fun target ⟨reason, e⟩ => ?_) (fun target unchosen => ?_) nofun
  · cases e
    exact (leavesDisk_ofDialogue (leavesDisk_cancel reason)).untouched _
  · cases target with
    | error reason => exact absurd ⟨reason, rfl⟩ unchosen
    | ok target => exact completes_generateTo o loaded settings target.1 target.2

theorem untouched_editPreferences (path : Path) :
    (editPreferences path).Untouched fun _ => False := by
  refine .tryCatch ?_ (fun reason => (LeavesDisk.throw _).untouched _) fun fault other => ?_
  · exact (untouched_configure path).bind (fun _ => False.elim) fun _ _ => .pure not_false
  · split
    · exact .pure not_false
    · exact .throw other

theorem untouched_preferences (config : Option String) :
    Untouched (fun outcome => outcome = .ok 2) (configure config).run := by
  rw [configure_eq]
  refine untouched_attempt (leavesDisk_ofDialogue (.ofExcept _)) fun path => ?_
  have edited := untouched_ofDialogue (untouched_editPreferences path) (Q := fun _ => False)
    fun _ => id
  refine untouched_attempt_bind edited (fun _ => False.elim) (fun settings _ => ?_) nofun
  split
  · exact .pure nofun
  · exact .pure nofun

theorem untouched_perform (command : Command) :
    Untouched (fun outcome => outcome = .ok 2) (perform command).run := by
  cases command with
  | generate o => exact untouched_generate o
  | configure config => exact untouched_preferences config
  | languages =>
    refine LeavesDisk.untouched (leavesDisk_attempt (leavesDisk_ofDialogue (.ofExcept _))
      fun infos => leavesDisk_attempt (leavesDisk_ofDialogue ?_) fun _ => .pure _) _
    exact (shows_printLines _).leavesDisk
  | nothing =>
    refine LeavesDisk.untouched (leavesDisk_attempt (leavesDisk_ofDialogue ?_) fun _ => .pure _) _
    exact (shows_printLines _).leavesDisk

theorem leavesDisk_performOrComplain (isBrief : Bool) {command : Command}
    (h : LeavesDisk (perform command).run) : (performOrComplain isBrief command).LeavesDisk :=
  fun c => (disk_left_performOrComplain isBrief command c).trans (h c)

theorem untouched_performed (command : Command) :
    (performed command).Untouched fun outcome => outcome = .ok 2 := by
  refine (untouched_perform command).tryCatch (fun reason => ?_) fun fault other => ?_
  · exact ((shows_print _).leavesDisk.bind fun _ => .pure _).untouched _
  · cases fault with
    | cancelled reason => exact absurd rfl (other reason)
    | _ => exact .throw other

theorem untouched_performOrComplain (isBrief : Bool) (command : Command) :
    (performOrComplain isBrief command).Untouched fun code => code = 2 := by
  rw [performOrComplain_eq]
  refine (untouched_performed command).bind (fun outcome same => ?_) fun outcome other => ?_
  · subst same
    exact (LeavesDisk.pure _).untouched _
  · split
    · rename_i code
      exact .pure fun e => other (congrArg _ e)
    · exact (shows_print _).completes.seq fun _ => .pure (by decide)

/-- **Cancelled programs and dry runs do nothing to the disk**, whatever the arguments are and whatever
is answered: neither does a program that ends with the code of a cancellation, nor one that generates
for a dry run, however it ends. -/
theorem cancelled_leaves_disk (isBrief : Bool) (args : List String) (console : Console) :
    ((run isBrief args).answer? console = some (.returned 2) →
      ((run isBrief args).left console).disk = console.disk) ∧
    ∀ o, Command.ofArguments args = .ok (.generate o) → o.isDryRun = true →
      ((run isBrief args).left console).disk = console.disk := by
  constructor
  · intro ended
    have h := answer?_eq_some.mp ended
    rcases parsed : Command.ofArguments args with reason | command
    · rw [run_of_stop isBrief parsed] at h
      cases h
    · rw [run_of_command isBrief parsed] at h ⊢
      obtain ⟨code, between, performed, returned⟩ := bind_eq_ok.mp h
      cases returned
      exact (untouched_performOrComplain isBrief command).answer performed rfl
  · intro o parsed dry
    rw [run_of_command isBrief parsed]
    have performed : (performOrComplain isBrief (.generate o)).LeavesDisk :=
      leavesDisk_performOrComplain isBrief (leavesDisk_generate dry)
    exact (performed.bind fun code => .pure _) console

/-! ## An element that is not selected, and a dry run -/

/-- A console with a model file, and an answer that cancels. -/
def declining : Console :=
  .new ["c"] (Disk.empty.install [] [("m.json", "\x7b\"kind\": \"class\", \"name\": \"A\"\x7d")])

theorem cancelled_leaves_disk_declining :
    (run false ["generate", "m.json"]).answer? declining = some (.returned 2) ∧
    ((run false ["generate", "m.json"]).left declining).disk = declining.disk ∧
    ∃ o, Command.ofArguments ["generate", "m.json", "--dry-run"] = .ok (.generate o) ∧
      o.isDryRun = true ∧
      ((run false ["generate", "m.json", "--dry-run"]).left declining).disk = declining.disk := by
  have declined : (run false ["generate", "m.json"]).answer? declining = some (.returned 2) := by
    decide +kernel
  have parsed : ∃ o, Command.ofArguments ["generate", "m.json", "--dry-run"] = .ok (.generate o) ∧
      o.isDryRun = true := ⟨_, rfl, rfl⟩
  obtain ⟨o, parsed, dry⟩ := parsed
  exact ⟨declined, (cancelled_leaves_disk false _ declining).1 declined, o, parsed, dry,
    (cancelled_leaves_disk false _ declining).2 o parsed dry⟩

end Program

end GosuForge
