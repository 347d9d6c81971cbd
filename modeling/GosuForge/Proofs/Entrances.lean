import GosuForge.Proofs.Options
import GosuForge.Proofs.Program
import GosuForge.Storage.Listing

/-!
# Two ways to a run

The library generates the root of a model file with options. The program does the same with flags, if it
is told the root and a folder. Both leave the same disk, and the program ends with zero just if the run
of the library is a success.

* `Request.generateFile_of_load`: what the library does with a model file that loads;
* `Program.generate_apply`: what is left to do of a command when it is known what goes where;
* `Program.generateTo_spec`: a command that runs next to the library with the same settings;
* `Program.run_generateFile`: the program next to the library.
-/

namespace GosuForge

namespace Request

variable {σ : Type}

/-- What a request leaves behind, also if no run was made. -/
def leftBehind (outcome : Except Fault (GenerationResult × σ)) (before : σ) : σ :=
  match outcome with
  | .ok (_, after) => after
  | .error _ => before

def Succeeds (outcome : Except Fault (GenerationResult × σ)) : Prop :=
  ∃ result after, outcome = .ok (result, after) ∧ result.success = true

/-- The author of a model file that loads is put to the options. -/
theorem generateFile_of_load {model : Path} {disk : Disk} {loaded : LoadedModel}
    (loads : LoadedModel.ofFile model disk = .ok loaded) (language : Value) (options : Entries)
    (path : Path) (storage : Storage σ) (state : σ) :
    generateFile language (.obj options) model path storage disk state =
      generate language (.overrides (withAuthor options loaded.author)) loaded.design loaded.root path
        storage disk state := by
  rw [generateFile, loads]
  cases options <;> rfl

end Request

namespace Program

open Command Dialogue

/-! ## Steps of a command that go well -/

section

variable {α β : Type} {x : Attempt α} {c between : Console} {a : α}

theorem attempt_of_ok (h : x.run c = .ok (.ok a) between) (f : α → Attempt β) :
    (x >>= f).run c = (f a).run between := bind_of_ok h _

theorem attempt_of_complaint {k : Complaint} (h : x.run c = .ok (.error k) between)
    (f : α → Attempt β) : (x >>= f).run c = .ok (.error k) between := bind_of_ok h _

theorem attempt_of_fault {fault : Fault} (h : x.run c = .error fault between)
    (f : α → Attempt β) : (x >>= f).run c = .error fault between := bind_eq_error.mpr (.inl h)

/-- A fault that is sorted ends as a complaint or as it is. -/
theorem sorted_error_cases (complaint? : Fault → Option Complaint) (fault : Fault) (c : Console) :
    (∃ k, (sorted complaint? (.error fault) : Attempt α).run c = .ok (.error k) c) ∨
      (sorted complaint? (.error fault) : Attempt α).run c = .error fault c := by
  cases h : complaint? fault with
  | some k =>
    left
    refine ⟨k, ?_⟩
    simp only [sorted, h]
    rfl
  | none =>
    right
    simp only [sorted, h]
    rfl

theorem disk_left_ofDialogue (dialogue : Dialogue α) (c : Console) :
    (left (ofDialogue dialogue).run c).disk = (dialogue.left c).disk :=
  disk_left_bind (fun _ => .pure _) c

theorem answer?_ofDialogue (dialogue : Dialogue α) (c : Console) :
    answer? (ofDialogue dialogue).run c = some (.ok a) ↔ dialogue.answer? c = some a := by
  rw [answer?, answer?]
  cases e : dialogue c with
  | ok b after =>
    rw [ofDialogue_of_ok e]
    simp
  | error fault after =>
    have failed : (ofDialogue dialogue).run c = .error fault after := bind_eq_error.mpr (.inl e)
    rw [failed]
    simp

end

theorem disk_apply (c : Console) : (ofDialogue Dialogue.disk).run c = .ok (.ok c.disk) c := rfl

variable {o : GenerateOptions} {c : Console} {loaded : LoadedModel}

theorem settingsFor_apply (config : o.config = none) {s : Settings}
    (combined : Settings.forLanguage (languageOf o) (.obj (overrides o)) none c.disk = .ok s)
    (author : Value) :
    (settingsFor o author).run c = .ok (.ok (s.signedBy author)) c := by
  have sorted : (sorted settingsComplaint (Settings.forLanguage (languageOf o) (.obj (overrides o))
      ((o.config.filter (· ≠ "")).map Path.ofString) c.disk)).run c = .ok (.ok s) c := by
    rw [config]
    show (Program.sorted _ (Settings.forLanguage _ _ none _)).run c = _
    rw [combined]
    rfl
  rw [settingsFor, attempt_of_ok (disk_apply c), attempt_of_ok sorted]
  rfl

theorem namedRoot_apply {name : String} (root : o.root = some name) (nonempty : name ≠ "")
    {id : ElementId} (found : loaded.find (.str name) = .ok (some id)) :
    (namedRoot o loaded).run c = .ok (.ok (some id)) c := by
  have given : o.root.filter (· ≠ "") = some name := by simp [root, nonempty]
  have answered : (ofDialogue (Dialogue.ofExcept (loaded.find (.str name)))).run c =
      .ok (.ok (some id)) c := by
    rw [found]
    rfl
  unfold namedRoot
  rw [given]
  exact attempt_of_ok answered _

theorem chooseTarget_apply (real : o.isDryRun = false) {folder : String}
    (output : o.output = some folder) (nonempty : folder ≠ "") (id : ElementId) (s : Settings) :
    chooseTarget o loaded (some id) s c = .ok (.ok (id, Path.ofString folder)) c := by
  have given : o.output.filter (· ≠ "") = some folder := by simp [output, nonempty]
  have chosen : selectTarget o loaded (some id) s = pure (id, Path.ofString folder) := by
    rw [selectTarget_eq, folderFor, real, given]
    rfl
  rw [chooseTarget, chosen]
  rfl

/-- With an element and a folder that are given, all that is left is to generate. -/
theorem generate_apply (loads : LoadedModel.ofFile (.ofString o.model) c.disk = .ok loaded)
    (config : o.config = none) {s : Settings}
    (combined : Settings.forLanguage (languageOf o) (.obj (overrides o)) none c.disk = .ok s)
    {name : String} (root : o.root = some name) (named : name ≠ "") {id : ElementId}
    (found : loaded.find (.str name) = .ok (some id)) (real : o.isDryRun = false) {folder : String}
    (output : o.output = some folder) (nonempty : folder ≠ "") :
    (generate o).run c =
      (generateTo o loaded (s.signedBy loaded.author) id (.ofString folder)).run c := by
  have load : (sorted modelComplaint (LoadedModel.ofFile (.ofString o.model) c.disk)).run c =
      .ok (.ok loaded) c := by
    rw [loads]
    rfl
  have chosen : (ofDialogue (chooseTarget o loaded (some id) (s.signedBy loaded.author))).run c =
      .ok (.ok (.ok (id, .ofString folder))) c :=
    ofDialogue_of_ok (chooseTarget_apply real output nonempty id _)
  rw [generate_eq, attempt_of_ok (disk_apply c), attempt_of_ok load,
    attempt_of_ok (settingsFor_apply config combined loaded.author),
    attempt_of_ok (namedRoot_apply root named found), attempt_of_ok chosen]

/-! ## A command next to the library -/

/-- All that is shown of a run that generates an element can be drawn. -/
structure Drawn (e : Element) (outcome : Except Fault (GenerationResult × Disk)) : Prop where
  progress : (tellProgress e).Returns
  files : ∀ result after, outcome = .ok (result, after) → result.success = true →
    (listFiles result none).Returns
  summary : ∀ result after, outcome = .ok (result, after) → result.success = true →
    (summarize result).Returns

/-- A report that can be drawn answers zero just for a success. -/
theorem answer?_report (brief : o.isVerbose = false) {result : GenerationResult}
    (files : result.success = true → (listFiles result none).Returns)
    (summary : result.success = true → (summarize result).Returns) :
    (report o result none).answer? c = some 0 ↔ result.success = true := by
  constructor
  · intro answered
    have code := (completes_report o result none).answer (answer?_eq_some.mp answered)
    by_contra failure
    exact absurd code (by rw [if_neg failure]; decide)
  · intro success
    have quiet : tellMore o result = pure () := by
      unfold tellMore
      rw [brief]
    have returns : (report o result none).Returns := by
      rw [report_eq, if_pos success, quiet]
      exact (files success).bind fun _ => (summary success).bind fun _ => (Returns.pure _).bind
        fun _ => .pure _
    obtain ⟨code, after, reported⟩ := returns c
    have zero := (completes_report o result none).answer reported
    rw [if_pos success] at zero
    rw [answer?, reported, zero]

theorem generateInto_spec (real : o.isDryRun = false) (brief : o.isVerbose = false) {g : Generator}
    {d : Design} {root : ElementId} {path : Path}
    (drawn : Drawn (d.model.get root)
      (.ok (Request.produced g d root path Disk.storage c.disk))) :
    let outcome := Request.produced g d root path Disk.storage c.disk
    ((generateInto o g d root path).left c).disk = outcome.2 ∧
      ((generateInto o g d root path).answer? c = some 0 ↔ outcome.1.success = true) := by
  intro outcome
  obtain ⟨_, between, told⟩ := drawn.progress c
  have same : between.disk = c.disk := (shows_flash _).leavesDisk.of_ok told
  have reported : generateInto o g d root path c =
      report o outcome.1 none { between with disk := outcome.2 } := by
    have read : Dialogue.disk between = .ok c.disk between := by
      rw [← same]
      rfl
    rw [generateInto_eq real, bind_of_ok told, bind_of_ok read]
    rfl
  constructor
  · rw [left_congr reported]
    exact (shows_report o outcome.1 none).leavesDisk _
  · rw [answer?_congr reported]
    exact answer?_report brief (drawn.files _ _ rfl) (drawn.summary _ _ rfl)

/-- **A command does what the library does with the same settings.** -/
theorem generateTo_spec (real : o.isDryRun = false) (brief : o.isVerbose = false) {s : Settings}
    {root : ElementId} {path : Path} (folder : c.disk.isDirectory? path = .ok true)
    (drawn : Drawn (loaded.design.model.get root)
      (Request.generate (languageOf o) (.ready s) loaded.design root path Disk.storage c.disk
        c.disk)) :
    let outcome := Request.generate (languageOf o) (.ready s) loaded.design root path Disk.storage
      c.disk c.disk
    (left (generateTo o loaded s root path).run c).disk = Request.leftBehind outcome c.disk ∧
      (answer? (generateTo o loaded s root path).run c = some (.ok 0) ↔
        Request.Succeeds outcome) := by
  intro outcome
  have stands : (folderStands o path c.disk).run c = .ok (.ok true) c := by
    rw [folderStands, real, folder]
    rfl
  have reached : (generateTo o loaded s root path).run c =
      (sorted generatorComplaint (Registry.bundled.create (languageOf o) (.ready s) c.disk) >>=
        fun g => ofDialogue (generateInto o g loaded.design root path)).run c := by
    rw [generateTo_eq, attempt_of_ok (disk_apply c), attempt_of_ok stands]
    rfl
  have made : outcome = _ := Request.generate_eq (languageOf o) (.ready s) loaded.design root path
    Disk.storage c.disk c.disk
  cases created : Registry.bundled.create (languageOf o) (.ready s) c.disk with
  | error fault =>
    rw [created] at made reached
    have refused : outcome = .error fault := made
    have failed : ¬ Request.Succeeds outcome := by
      rintro ⟨_, _, ended, -⟩
      cases refused.symm.trans ended
    rcases sorted_error_cases generatorComplaint fault c with ⟨k, complained⟩ | ended
    · have stopped := reached.trans (attempt_of_complaint complained _)
      rw [left_of_ok stopped, answer?, stopped, refused]
      exact ⟨rfl, by simp, fun success => absurd (refused ▸ success) failed⟩
    · have stopped := reached.trans (attempt_of_fault ended _)
      rw [left_of_error stopped, answer?, stopped, refused]
      exact ⟨rfl, by simp, fun success => absurd (refused ▸ success) failed⟩
  | ok g =>
    rw [created] at made reached
    have run : outcome = .ok (Request.produced g loaded.design root path Disk.storage c.disk) := made
    have shown : Drawn (loaded.design.model.get root) outcome := drawn
    rw [run] at shown
    have spec := generateInto_spec real brief shown
    have sorted : (sorted generatorComplaint (.ok g)).run c = .ok (.ok g) c := rfl
    rw [attempt_of_ok sorted] at reached
    rw [run, left_congr reached, answer?_congr reached, disk_left_ofDialogue, answer?_ofDialogue]
    refine ⟨spec.1, spec.2.trans ?_⟩
    constructor
    · exact fun success => ⟨_, _, rfl, success⟩
    · rintro ⟨result, after, e, success⟩
      cases e
      exact success

/-! ## The program next to the library -/

theorem disk_left_run (isBrief : Bool) {args : List String} {command : Command}
    (h : Command.ofArguments args = .ok command) (c : Console) :
    ((run isBrief args).left c).disk = (left (perform command).run c).disk := by
  rw [run_of_command isBrief h, disk_left_bind fun _ => .pure _]
  exact disk_left_performOrComplain isBrief command c

theorem answer?_run_zero (isBrief : Bool) {args : List String} {command : Command}
    (h : Command.ofArguments args = .ok command) (c : Console) :
    (run isBrief args).answer? c = some (.returned 0) ↔
      answer? (perform command).run c = some (.ok 0) := by
  rw [run_of_command isBrief h]
  constructor
  · intro ended
    obtain ⟨code, between, returned, zero⟩ := bind_eq_ok.mp (answer?_eq_some.mp ended)
    cases zero
    obtain ⟨outcome, before, caught, complained⟩ := bind_eq_ok.mp returned
    have zero : outcome = .ok 0 := by
      cases outcome with
      | ok code =>
        cases complained
        rfl
      | error complaint =>
        obtain ⟨_, _, -, one⟩ := bind_eq_ok.mp complained
        cases one
    subst zero
    rw [answer?_eq_some]
    rw [tryCatch_apply] at caught
    split at caught
    · rename_i e
      cases caught
      rw [left_of_ok e, e]
    · rename_i fault _ e
      cases fault with
      | cancelled reason =>
        obtain ⟨_, _, -, two⟩ := bind_eq_ok.mp caught
        cases two
      | _ => cases caught
  · intro answered
    have caught : performed command c = .ok (.ok 0) (left (perform command).run c) := by
      rw [performed, tryCatch_apply, answer?_eq_some.mp answered]
    have complained : performOrComplain isBrief command c =
        .ok 0 (left (perform command).run c) := by
      rw [performOrComplain_eq, bind_of_ok caught]
      rfl
    rw [answer?_congr (bind_of_ok complained _)]
    rfl

/-- **The program and the library agree.** For a model file that loads, an existing folder and a name that
the root is found by, the program with flags leaves the disk that the library leaves with the options for
them, and ends with zero just if the library has a success to report. The texts on the command line are
such as can be read as values. -/
theorem run_generateFile (isBrief : Bool) {file root output : String} (plainFile : IsPlain file)
    (plainRoot : IsPlain root) (plainOutput : IsPlain output) (flags : List Flag) {console : Console}
    {loaded : LoadedModel}
    (loads : LoadedModel.ofFile (.ofString file) console.disk = .ok loaded)
    (found : loaded.find (.str root) = .ok (some loaded.root)) (named : root ≠ "")
    (folder : console.disk.isDirectory? (.ofString output) = .ok true) (nonempty : output ≠ "")
    (drawn : Drawn (loaded.design.model.get loaded.root)
      (Request.generateFile (.str "gosu") (.obj (Flag.options flags)) (.ofString file)
        (.ofString output) Disk.storage console.disk console.disk)) :
    let outcome := Request.generateFile (.str "gosu") (.obj (Flag.options flags)) (.ofString file)
      (.ofString output) Disk.storage console.disk console.disk
    let program := run isBrief (generateArguments file root output flags)
    (program.left console).disk = Request.leftBehind outcome console.disk ∧
      (program.answer? console = some (.returned 0) ↔ Request.Succeeds outcome) := by
  intro outcome program
  have parsed := ofArguments_generateArguments plainFile plainRoot plainOutput flags
  obtain ⟨s, t, combinedFlags, combinedOptions, agree⟩ :=
    (standsFor_options root output flags).combine_agree [file] loaded.author
  -- The library does with its options what it does with the settings of the command.
  have language : languageOf (generateCommand file root output flags) = .str "gosu" := by
    rw [languageOf, generateCommand_language]
    rfl
  have ready : outcome = Request.generate (languageOf (generateCommand file root output flags))
      (.ready (s.signedBy loaded.author)) loaded.design loaded.root (.ofString output) Disk.storage
      console.disk console.disk := by
    rw [language]
    exact (Request.generateFile_of_load loads _ _ _ _ _).trans
      (Request.generate_ready agree combinedOptions _ _ _ _ _ _)
  have combined : Settings.forLanguage (languageOf (generateCommand file root output flags))
      (.obj (overrides (generateCommand file root output flags))) none console.disk = .ok s := by
    rw [language]
    exact combinedFlags
  have reached : (generate (generateCommand file root output flags)).run console =
      (generateTo (generateCommand file root output flags) loaded (s.signedBy loaded.author)
        loaded.root (.ofString output)).run console :=
    generate_apply (o := generateCommand file root output flags) loads
      (generateCommand_config file root output flags) combined
      (generateCommand_root file root output flags) named found
      (generateCommand_isDryRun file root output flags)
      (generateCommand_output file root output flags) nonempty
  have shown : Drawn (loaded.design.model.get loaded.root) outcome := drawn
  rw [ready] at shown
  obtain ⟨disk, answer⟩ := generateTo_spec (generateCommand_isDryRun file root output flags)
    (generateCommand_isVerbose file root output flags) folder shown
  constructor
  · rw [disk_left_run isBrief parsed, ready, ← disk, perform, left_congr reached]
  · rw [answer?_run_zero isBrief parsed, ready, ← answer, perform, answer?_congr reached]

/-! ## A model file with one class -/

/-- A console without answers, with a folder and a model file. -/
def drafting (text : String) : Console := .new [] (Disk.empty.install ["out"] [("m.json", text)])

/-- The run of the library for the model file. -/
def drafted (text : String) (flags : List Flag) : Except Fault (GenerationResult × Disk) :=
  Request.generateFile (.str "gosu") (.obj (Flag.options flags)) (.ofString "m.json")
    (.ofString "out") Disk.storage (drafting text).disk (drafting text).disk

/-- A run that is a success makes one file and no folders. -/
def makesOneFile (outcome : GenerationResult × Disk) : Bool :=
  outcome.1.success && outcome.1.files == [.ofString "out/A.gs"] && outcome.1.directories.isEmpty

theorem reads_progress :
    (Markup.read ("[progress.description][green]Generating " ++ "A" ++ "...")).toBool = true := by
  have pieces : Markup.pieces
      ("[progress.description][green]Generating " ++ "A" ++ "...").toList =
        [.tag "progress.description".toList, .tag "green".toList,
          .text "Generating A...".toList] := by decide +kernel
  have first : Markup.Tag.ofContent "progress.description".toList =
      ⟨"progress.description", none⟩ := by decide +kernel
  have opening : Markup.Tag.closes? ⟨"progress.description", none⟩ = none := by decide +kernel
  have opened : Markup.openAfter 0 ⟨"progress.description", none⟩ [] =
      .ok ([⟨⟨"progress.description", none⟩, 0⟩], []) := by
    rw [Markup.openAfter, opening]
    show Style.normalForm "progress.description" >>= _ = _
    rw [Style.normalForm_progress]
    rfl
  rw [Markup.read, if_pos (by decide +kernel), pieces, Markup.shown, first, opened]
  decide +kernel

theorem drawn_class {e : Element} {outcome : Except Fault (GenerationResult × Disk)}
    (name : e.name.display = "A") (made : outcome.toOption.any makesOneFile = true) :
    Drawn e outcome := by
  obtain ⟨⟨result, disk⟩, h, one⟩ := Outcome.exists_of_any made
  simp only [makesOneFile, Bool.and_eq_true, beq_iff_eq, List.isEmpty_iff] at one
  obtain ⟨⟨-, files⟩, directories⟩ := one
  subst h
  refine ⟨?_, ?_, ?_⟩
  · rw [tellProgress, name]
    exact returns_flash reads_progress
  · rintro _ _ ⟨⟩ -
    rw [listFiles, files]
    refine .forM fun path hp => ?_
    rw [List.mem_singleton.mp hp]
    exact returns_print (by decide +kernel)
  · rintro _ _ ⟨⟩ -
    rw [summarize, files, directories]
    exact returns_print (by decide +kernel)

/-- What the program and the library are given: a model file with a class `A` that is found by `root`. -/
structure OneClass (text root : String) (flags : List Flag) (loaded : LoadedModel) : Prop where
  loads : LoadedModel.ofFile (.ofString "m.json") (drafting text).disk = .ok loaded
  found : loaded.find (.str root) = .ok (some loaded.root)
  folder : (drafting text).disk.isDirectory? (.ofString "out") = .ok true
  drawn : Drawn (loaded.design.model.get loaded.root) (drafted text flags)
  succeeds : Request.Succeeds (drafted text flags)

/-- Whether a model has an element `A` as its root that is found by `root`. -/
def findsClass (root : String) (loaded : LoadedModel) : Bool :=
  (loaded.find (.str root)).toOption.any (· == some loaded.root) &&
    (loaded.design.model.get loaded.root).name.display == "A"

theorem exists_oneClass {text root : String} {flags : List Flag}
    (model : (LoadedModel.ofFile (.ofString "m.json") (drafting text).disk).toOption.any
      (findsClass root) = true)
    (folder : ((drafting text).disk.isDirectory? (.ofString "out")).toOption.any id = true)
    (made : (drafted text flags).toOption.any makesOneFile = true) :
    ∃ loaded, OneClass text root flags loaded := by
  obtain ⟨loaded, loads, finds⟩ := Outcome.exists_of_any model
  obtain ⟨isThere, stands, there⟩ := Outcome.exists_of_any folder
  obtain ⟨⟨result, disk⟩, ended, one⟩ := Outcome.exists_of_any made
  simp only [findsClass, Bool.and_eq_true, beq_iff_eq] at finds
  simp only [makesOneFile, Bool.and_eq_true] at one
  obtain ⟨id, found, same⟩ := Outcome.exists_of_any finds.1
  rw [beq_iff_eq] at same
  exact ⟨loaded, loads, same ▸ found, there ▸ stands, drawn_class finds.2 made, result, disk, ended,
    one.1.1⟩

/-- A class whose model names an author. -/
def signedText : String := "\x7b\"kind\": \"class\", \"name\": \"A\", \"author\": \"me\"\x7d"

/-- An indentation of two spaces and an author without a name. -/
def twoFlags : List Flag :=
  [.indent "2" 2 (isPlain_of_startsWith (by decide +kernel)) (by decide +kernel),
    .author "" (isPlain_of_startsWith (by decide +kernel))]

theorem run_generateFile_signed :
    IsPlain "m.json" ∧ IsPlain "A" ∧ IsPlain "out" ∧
    (∃ loaded, OneClass signedText "A" twoFlags loaded) ∧ "A" ≠ "" ∧ "out" ≠ "" ∧
    ((run false (generateArguments "m.json" "A" "out" twoFlags)).left (drafting signedText)).disk =
      Request.leftBehind (drafted signedText twoFlags) (drafting signedText).disk ∧
    (run false (generateArguments "m.json" "A" "out" twoFlags)).answer? (drafting signedText) =
      some (.returned 0) := by
  have file : IsPlain "m.json" := isPlain_of_startsWith (by decide +kernel)
  have root : IsPlain "A" := isPlain_of_startsWith (by decide +kernel)
  have output : IsPlain "out" := isPlain_of_startsWith (by decide +kernel)
  obtain ⟨loaded, one⟩ : ∃ loaded, OneClass signedText "A" twoFlags loaded :=
    exists_oneClass (by decide +kernel) (by decide +kernel) (by decide +kernel)
  obtain ⟨disk, answer⟩ := run_generateFile false file root output twoFlags one.loads one.found
    (by decide) one.folder (by decide) one.drawn
  exact ⟨file, root, output, ⟨loaded, one⟩, by decide, by decide, disk, answer.mpr one.succeeds⟩

/-- A class with an id that looks like a switch. -/
def dashedText : String := "\x7b\"id\": \"-r\", \"kind\": \"class\", \"name\": \"A\"\x7d"

/-- A name that looks like a switch is not read as the name of the root, by which the library has a
success. -/
theorem dashed_root_unread :
    (∃ loaded, OneClass dashedText "-r" [] loaded) ∧ "-r" ≠ "" ∧
    (run false (generateArguments "m.json" "-r" "out" [])).answer? (drafting dashedText) =
      some (.stopped .usage) ∧
    ((run false (generateArguments "m.json" "-r" "out" [])).left (drafting dashedText)).disk ≠
      Request.leftBehind (drafted dashedText []) (drafting dashedText).disk := by
  have refused : Command.ofArguments (generateArguments "m.json" "-r" "out" []) = .error .usage := by
    rfl
  have one : ∃ loaded, OneClass dashedText "-r" [] loaded :=
    exists_oneClass (by decide +kernel) (by decide +kernel) (by decide +kernel)
  refine ⟨one, by decide, ?_, ?_⟩
  · rw [run_of_stop false refused]
    rfl
  · rw [run_of_stop false refused]
    show (drafting dashedText).disk ≠ _
    decide +kernel

end Program

end GosuForge
