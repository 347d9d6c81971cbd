import GosuForge.Console.Program
import GosuForge.Proofs.Dialogue

/-!
# The program step by step

The parts of a command as dialogues one after the other, each under a name of its own, and what steps
that may end in a complaint leave of the disk.

* `Program.generate_eq`, `Program.selectTarget_eq`, `Program.generateTo_eq`, `Program.report_eq`: the
  parts of `generate`;
* `Program.shows_report`, `Program.completes_report`: what a report does, and the code of it;
* `Program.leavesDisk_attempt`, `Program.untouched_attempt`, `Program.completes_attempt`: steps that
  may end in a complaint.
-/

namespace GosuForge.Program

open Dialogue Outcome

/-! ## The parts of a command -/

/-- The element that is named, or else asked for. -/
def elementOr (loaded : LoadedModel) (root : Option ElementId) : Dialogue ElementId :=
  match root with
  | some id => pure id
  | none => selectElement loaded.design.model loaded.root

/-- The folder that is given, or else asked for. -/
def folderFor (o : GenerateOptions) (settings : Settings) : Dialogue Path :=
  let output := o.output.filter (· ≠ "")
  if o.isDryRun then pure (Path.ofString (output.getD "."))
  else
    match output with
    | some output => pure (Path.ofString output)
    | none => selectFolder settings.outputDir

theorem selectTarget_eq (o : GenerateOptions) (loaded : LoadedModel) (root : Option ElementId)
    (settings : Settings) :
    selectTarget o loaded root settings =
      elementOr loaded root >>= fun id => folderFor o settings >>= fun path => pure (id, path) := by
  unfold selectTarget folderFor elementOr
  rcases root <;> rcases o.isDryRun <;> rcases o.output.filter (· ≠ "") <;> rfl

/-- The element and the folder, or why the user gave none. -/
def chooseTarget (o : GenerateOptions) (loaded : LoadedModel) (root : Option ElementId)
    (settings : Settings) : Dialogue (Except Cancellation (ElementId × Path)) :=
  tryCatch
    (do
      let target ← selectTarget o loaded root settings
      pure (.ok target))
    fun fault =>
      match fault with
      | .cancelled reason => pure (.error reason)
      | fault => throw fault

theorem generate_eq (o : GenerateOptions) :
    generate o =
      (do
        let disk ← ofDialogue Dialogue.disk
        let loaded ← sorted modelComplaint (LoadedModel.ofFile (Path.ofString o.model) disk)
        let settings ← settingsFor o loaded.author
        let root ← namedRoot o loaded
        let chosen ← ofDialogue (chooseTarget o loaded root settings)
        match chosen with
        | .error reason => ofDialogue (cancel reason)
        | .ok (root, path) => generateTo o loaded settings root path) := rfl

/-- The preferences as they are saved, or what is wrong with the settings. -/
def editPreferences (path : Path) : Dialogue (Except Complaint Settings) :=
  tryCatch
    (do
      let settings ← Dialogue.configure path
      pure (.ok settings))
    fun fault =>
      match settingsComplaint fault with
      | some c => pure (.error c)
      | none => throw fault

theorem configure_eq (config : Option String) :
    configure config =
      (do
        let path ← ofDialogue (Dialogue.ofExcept (fileOf config))
        let settings ← ofDialogue (editPreferences path)
        match settings with
        | .ok _ => pure 0
        | .error c => complain c) := rfl

/-- Carries out a command, where a cancellation is a code like others. -/
def performed (command : Command) : Dialogue (Except Complaint Nat) :=
  tryCatch (perform command).run fun fault =>
    match fault with
    | .cancelled reason => do
      print ("[yellow]⚠️  Cancelled:[/yellow] " ++ reason.reason)
      pure (.ok 2)
    | fault => throw fault

theorem performOrComplain_eq (isBrief : Bool) (command : Command) :
    performOrComplain isBrief command =
      (do
        let outcome ← performed command
        match outcome with
        | .ok code => pure code
        | .error complaint => do
          print ("[red]✗ Error:[/red] " ++ complaint.message isBrief)
          pure 1) := rfl

/-- A command alone decides what becomes of the disk: nothing is done to it while it is complained. -/
theorem disk_left_performOrComplain (isBrief : Bool) (command : Command) (c : Console) :
    ((performOrComplain isBrief command).left c).disk = (left (perform command).run c).disk := by
  rw [performOrComplain_eq, disk_left_bind fun outcome => ?_]
  · refine disk_left_tryCatch (fun fault => ?_) c
    split
    · exact (shows_print _).leavesDisk.bind fun _ => .pure _
    · exact .throw _
  · split
    · exact .pure _
    · exact (shows_print _).leavesDisk.bind fun _ => .pure _

theorem run_of_command (isBrief : Bool) {args : List String} {command : Command}
    (h : Command.ofArguments args = .ok command) :
    run isBrief args = performOrComplain isBrief command >>= fun code => pure (.returned code) := by
  rw [run, h]

theorem run_of_stop (isBrief : Bool) {args : List String} {reason : Stop}
    (h : Command.ofArguments args = .error reason) : run isBrief args = pure (.stopped reason) := by
  rw [run, h]

/-- How many files there are in spite of a failure, if there are any. -/
def reportWritten (result : GenerationResult) : Dialogue Unit :=
  if !result.files.isEmpty then
    printLines [toString result.files.length ++ " file(s) were written before the failure"]
  else pure ()

def listFiles (result : GenerationResult) (files : Option (Memory String)) : Dialogue Unit :=
  match files with
  | some memory => result.files.forM fun path => showFile path ((memory.content? path).getD "")
  | none => result.files.forM fun path =>
    print ("[green]✓[/green] [cyan]" ++ path.toString ++ "[/cyan]")

def summarize (result : GenerationResult) : Dialogue Unit :=
  print ("\n[green]✓[/green] Generated " ++ toString result.files.length ++ " file(s) in "
    ++ toString result.directories.length ++ " folder(s)")

/-- The metadata of a run, where they are wanted. -/
def tellMore (o : GenerateOptions) (result : GenerationResult) : Dialogue Unit :=
  match o.isVerbose, result.metadata with
  | true, .obj metadata => showMetadata metadata
  | _, _ => pure ()

theorem report_eq (o : GenerateOptions) (result : GenerationResult)
    (files : Option (Memory String)) :
    report o result files =
      (if result.success then do
        listFiles result files
        summarize result
        tellMore o result
        pure 0
      else do
        print ("[red]✗ Code generation failed:[/red] " ++ result.errorMessage.display)
        reportWritten result
        pure 1) := by
  unfold report listFiles summarize tellMore reportWritten
  rcases result.success
  · rcases result.files.isEmpty <;> rfl
  · rcases files <;> rcases o.isVerbose <;> rcases result.metadata <;> rfl

/-- What is shown while an element is generated. -/
def tellProgress (e : Element) : Dialogue Unit :=
  flash ("[progress.description][green]Generating " ++ e.name.display ++ "...")

/-- On the disk, a run is made between what is shown while it lasts and the report of it. -/
theorem generateInto_eq {o : GenerateOptions} (real : o.isDryRun = false) (g : Generator)
    (d : Design) (root : ElementId) (path : Path) :
    generateInto o g d root path =
      (do
        tellProgress (d.model.get root)
        let disk ← Dialogue.disk
        let outcome := (Workbench.new g).run d root path Disk.storage disk
        setDisk outcome.2.2.2
        report o outcome.1 none) := by
  unfold generateInto
  rw [real]
  rfl

/-- Whether there is a folder to generate into; a dry run needs none. -/
def folderStands (o : GenerateOptions) (path : Path) (disk : Disk) : Attempt Bool :=
  if o.isDryRun then pure true else ofDialogue (Dialogue.ofExcept (disk.isDirectory? path))

theorem generateTo_eq (o : GenerateOptions) (loaded : LoadedModel) (settings : Settings)
    (root : ElementId) (path : Path) :
    generateTo o loaded settings root path =
      (do
        let disk ← ofDialogue Dialogue.disk
        let isThere ← folderStands o path disk
        if !isThere then complain (.folderMissing path)
        else
          let generator ← sorted generatorComplaint
            (Registry.bundled.create (languageOf o) (.ready settings) disk)
          ofDialogue (generateInto o generator loaded.design root path)) := by
  unfold generateTo folderStands
  rcases o.isDryRun <;> rfl

/-! ## Reports -/

theorem shows_listFiles (result : GenerationResult) (files : Option (Memory String)) :
    (listFiles result files).Shows := by
  have shown (path : Path) (text : String) : (showFile path text).Shows :=
    (Shows.ofExcept (Markup.uncancelled_title _)).bind fun _ => shows_printLines _
  unfold listFiles
  split
  · exact .forM fun path => shown path _
  · exact .forM fun path => shows_print _

theorem shows_summarize (result : GenerationResult) : (summarize result).Shows := shows_print _

theorem shows_tellMore (o : GenerateOptions) (result : GenerationResult) :
    (tellMore o result).Shows := by
  unfold tellMore
  split
  · exact shows_printTable _
  · exact .pure _

theorem shows_reportWritten (result : GenerationResult) : (reportWritten result).Shows := by
  unfold reportWritten
  split
  · exact shows_printLines _
  · exact .pure _

theorem shows_report (o : GenerateOptions) (result : GenerationResult)
    (files : Option (Memory String)) : (report o result files).Shows := by
  rw [report_eq]
  split
  · exact (shows_listFiles _ _).bind fun _ => (shows_summarize _).bind fun _ =>
      (shows_tellMore _ _).bind fun _ => .pure _
  · exact (shows_print _).bind fun _ => (shows_reportWritten _).bind fun _ => .pure _

/-- The code of a report tells whether the run was a success. -/
theorem completes_report (o : GenerateOptions) (result : GenerationResult)
    (files : Option (Memory String)) :
    (report o result files).Completes fun code => code = if result.success then 0 else 1 := by
  rw [report_eq]
  cases result.success with
  | true =>
    exact (shows_listFiles _ _).completes.seq fun _ => (shows_summarize _).completes.seq fun _ =>
      (shows_tellMore _ _).completes.seq fun _ => .pure rfl
  | false =>
    exact (shows_print _).completes.seq fun _ => (shows_reportWritten _).completes.seq fun _ =>
      .pure rfl

/-! ## Steps that may end in a complaint -/

variable {α β : Type} {x : Attempt α} {f : α → Attempt β} {P : Except Complaint β → Prop}

theorem leavesDisk_attempt (hx : LeavesDisk x.run) (hf : ∀ a, LeavesDisk (f a).run) :
    LeavesDisk (x >>= f).run := by
  refine hx.bind fun outcome => ?_
  cases outcome with
  | ok a => exact hf a
  | error c => exact .pure _

theorem untouched_attempt (hx : LeavesDisk x.run) (hf : ∀ a, Untouched P (f a).run) :
    Untouched P (x >>= f).run := by
  refine .after hx fun outcome => ?_
  cases outcome with
  | ok a => exact hf a
  | error c => exact (LeavesDisk.pure _).untouched P

theorem untouched_attempt_bind {R : Except Complaint α → Prop} (hx : Untouched R x.run)
    (kept : ∀ a, R (.ok a) → Untouched P (f a).run)
    (changed : ∀ a, ¬ R (.ok a) → Completes (fun outcome => ¬ P outcome) (f a).run)
    (hc : ∀ c, ¬ P (.error c)) : Untouched P (x >>= f).run := by
  refine hx.bind (fun outcome same => ?_) fun outcome other => ?_
  · cases outcome with
    | ok a => exact kept a same
    | error c => exact (LeavesDisk.pure _).untouched P
  · cases outcome with
    | ok a => exact changed a other
    | error c => exact .pure (hc c)

theorem completes_attempt (hx : Completes (fun _ => True) x.run) (hf : ∀ a, Completes P (f a).run)
    (hc : ∀ c, P (.error c)) : Completes P (x >>= f).run := by
  refine hx.seq fun outcome => ?_
  cases outcome with
  | ok a => exact hf a
  | error c => exact .pure (hc c)

theorem ofDialogue_of_ok {dialogue : Dialogue α} {c between : Console} {a : α}
    (h : dialogue c = .ok a between) : (ofDialogue dialogue).run c = .ok (.ok a) between :=
  bind_of_ok h fun a => pure (Except.ok a)

theorem leavesDisk_ofDialogue {dialogue : Dialogue α} (h : dialogue.LeavesDisk) :
    LeavesDisk (ofDialogue dialogue).run := h.bind fun _ => .pure _

theorem completes_ofDialogue {dialogue : Dialogue α} {R : α → Prop} (h : dialogue.Completes R)
    {Q : Except Complaint α → Prop} (hq : ∀ a, R a → Q (.ok a)) :
    Completes Q (ofDialogue dialogue).run := h.bind fun a ha => .pure (hq a ha)

theorem untouched_ofDialogue {dialogue : Dialogue α} {R : α → Prop} (h : dialogue.Untouched R)
    {Q : Except Complaint α → Prop} (hq : ∀ a, Q (.ok a) → R a) :
    Untouched Q (ofDialogue dialogue).run :=
  h.bind (fun _ _ => (LeavesDisk.pure _).untouched Q) fun a ha => .pure (mt (hq a) ha)

theorem leavesDisk_sorted (complaint? : Fault → Option Complaint) (outcome : Except Fault α) :
    LeavesDisk (sorted complaint? outcome).run := by
  unfold sorted
  split
  · exact .pure _
  · split
    · exact .pure _
    · exact leavesDisk_ofDialogue (.throw _)

theorem completes_sorted (complaint? : Fault → Option Complaint) {outcome : Except Fault α}
    (h : Uncancelled outcome) : Completes (fun _ => True) (sorted complaint? outcome).run := by
  unfold sorted
  split
  · exact .pure trivial
  · rename_i fault
    split
    · exact .pure trivial
    · refine completes_ofDialogue (R := fun _ => True) (.throw fun reason e => ?_) fun _ => id
      exact h reason (e ▸ rfl)

end GosuForge.Program
