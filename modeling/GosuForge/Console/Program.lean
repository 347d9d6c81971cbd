import GosuForge.Console.Command
import GosuForge.Console.Preferences
import GosuForge.Console.Selection
import GosuForge.Generation.Request
import GosuForge.Storage.Memory

/-!
# The program

`Program.run` carries out the command that its arguments ask for and ends with an exit code: zero
for success, one for failure and two if the user cancelled. Faults that are about the command, its
files or its settings are printed; any other fault ends the program.
-/

namespace GosuForge.Program

/-- How the program ends. -/
inductive Ending
  | returned (code : Nat)
  /-- The arguments were not carried out. -/
  | stopped (reason : Stop)
  deriving DecidableEq, Repr

/-- Why a command fails, for the user to read. -/
inductive Complaint
  | modelMissing (path : Path)
  | model (defect : ModelDefect)
  | settings (defect : SettingsDefect)
  | rootMissing (root file : String)
  | folderMissing (path : Path)
  | generator (fault : Fault)
  deriving Repr

namespace Complaint

/-- The sentence for a complaint. Where `isBrief` is set, it leaves out what the JSON reader had to
say. -/
def message (isBrief : Bool) : Complaint → String
  | modelMissing path => (Fault.modelMissing path).message
  | model defect => "Invalid model: " ++ if isBrief then defect.headline else defect.message
  | settings defect =>
    "Configuration error: " ++ if isBrief then defect.headline else defect.message
  | rootMissing root file => "Element '" ++ root ++ "' not found in " ++ file
  | folderMissing path => "Output folder does not exist: " ++ path.toString
  | generator fault => fault.message

end Complaint

/-- The outcome of a part of a command, which may end in a complaint. -/
abbrev Attempt := ExceptT Complaint Dialogue

def complain {α : Type} (c : Complaint) : Attempt α := throw c

def ofDialogue {α : Type} (dialogue : Dialogue α) : Attempt α := ExceptT.lift dialogue

/-- Turns the faults that are complaints into such. -/
def sorted {α : Type} (complaint? : Fault → Option Complaint) (outcome : Except Fault α) :
    Attempt α :=
  match outcome with
  | .ok x => pure x
  | .error fault =>
    match complaint? fault with
    | some c => throw c
    | none => ofDialogue (throw fault)

def modelComplaint : Fault → Option Complaint
  | .modelMissing path => some (.modelMissing path)
  | .model defect => some (.model defect)
  | _ => none

def settingsComplaint : Fault → Option Complaint
  | .settings defect => some (.settings defect)
  | _ => none

def generatorComplaint : Fault → Option Complaint
  | .notGenerator => some (.generator .notGenerator)
  | .unknownLanguage name available => some (.generator (.unknownLanguage name available))
  | .settingsKind kind => some (.generator (.settingsKind kind))
  | .creation name cause => some (.generator (.creation name cause))
  | _ => none

/-- What the options put on top of the settings. -/
def overrides (o : GenerateOptions) : Entries :=
  (if o.withoutDocs then [("doc_comments", .bool false)] else [])
    ++ (if o.useTabs then [("use_tabs", .bool true)] else [])
    ++ (o.indent.map fun v => ("indent_size", v)).toList
    ++ ((o.author.filter (· ≠ "")).map fun author => ("author", Value.str author)).toList

/-- The language of a command, if it was given one. -/
def languageOf (o : GenerateOptions) : Value := (o.language.map Value.str).getD .null

/-- The settings for a command; the author of the model counts if they name none. -/
def settingsFor (o : GenerateOptions) (author : Value) : Attempt Settings := do
  let disk ← ofDialogue Dialogue.disk
  let file := (o.config.filter (· ≠ "")).map Path.ofString
  let settings ← sorted settingsComplaint
    (Settings.forLanguage (languageOf o) (.obj (overrides o)) file disk)
  pure (if !settings.author.truthy && author.truthy then settings.set author .author
    else settings)

/-- The folder that the settings of a command offer for the generated code. -/
def offeredFolder? (args : List String) (disk : Disk) : Option String :=
  match Command.ofArguments args with
  | .ok (.generate o) =>
    match Settings.forLanguage (languageOf o) .null
      ((o.config.filter (· ≠ "")).map Path.ofString) disk with
    | .ok settings =>
      match settings.outputDir with
      | .str folder => some folder
      | _ => none
    | .error _ => none
  | _ => none

/-- The element that the options name, if they name one. -/
def namedRoot (o : GenerateOptions) (loaded : LoadedModel) : Attempt (Option ElementId) := do
  match o.root.filter (· ≠ "") with
  | none => pure none
  | some name =>
    let found ← ofDialogue (Dialogue.ofExcept (loaded.find (.str name)))
    match found with
    | some id => pure (some id)
    | none => complain (.rootMissing name o.model)

/-- The element and the folder, each asked for if it is not given. -/
def selectTarget (o : GenerateOptions) (loaded : LoadedModel) (root : Option ElementId)
    (settings : Settings) : Dialogue (ElementId × Path) := do
  let root ← match root with
    | some id => pure id
    | none => Dialogue.selectElement loaded.design.model loaded.root
  let output := o.output.filter (· ≠ "")
  let path ←
    if o.isDryRun then pure (Path.ofString (output.getD "."))
    else
      match output with
      | some output => pure (Path.ofString output)
      | none => Dialogue.selectFolder settings.outputDir
  pure (root, path)

/-- Prints one file of a dry run in a frame. -/
def showFile (path : Path) (text : String) : Dialogue Unit := do
  let title ← Dialogue.ofExcept (Markup.title ("📄 " ++ path.toString))
  Dialogue.printLines (["╭ " ++ title ++ " ╮"]
    ++ (Text.splitLines text).map (fun line => "│ " ++ line ++ " │") ++ ["╰╯"])

/-- A key with its words set apart and capitalized. -/
def keyLabel (key : String) : String :=
  Text.join " " ((Text.split '_' key).map String.capitalize)

/-- Prints what is known of a run. -/
def showMetadata (metadata : Entries) : Dialogue Unit :=
  Dialogue.printTable
    [⟨"Property", metadata.map fun (key, _) => keyLabel key⟩,
      ⟨"Value", metadata.map fun (_, v) => v.display⟩]

def cancel (reason : Cancellation) : Dialogue Nat := do
  let result := GenerationResult.dismissed (.str reason.reason)
  Dialogue.print ("[yellow]⚠️  " ++ result.errorMessage.display ++ "[/yellow]")
  pure 2

/-- Prints how a run went, with the files themselves if they were made in memory. -/
def report (o : GenerateOptions) (result : GenerationResult) (files : Option (Memory String)) :
    Dialogue Nat := do
  if !result.success then
    Dialogue.print ("[red]✗ Code generation failed:[/red] " ++ result.errorMessage.display)
    if !result.files.isEmpty then
      Dialogue.printLines [toString result.files.length
        ++ " file(s) were written before the failure"]
    pure 1
  else
    match files with
    | some memory => result.files.forM fun path => showFile path ((memory.content? path).getD "")
    | none => result.files.forM fun path =>
      Dialogue.print ("[green]✓[/green] [cyan]" ++ path.toString ++ "[/cyan]")
    Dialogue.print ("\n[green]✓[/green] Generated " ++ toString result.files.length
      ++ " file(s) in " ++ toString result.directories.length ++ " folder(s)")
    match o.isVerbose, result.metadata with
    | true, .obj metadata => showMetadata metadata
    | _, _ => pure ()
    pure 0

/-- Generates in memory for a dry run, else on the disk, and reports. -/
def generateInto (o : GenerateOptions) (g : Generator) (d : Design) (root : ElementId)
    (path : Path) : Dialogue Nat := do
  Dialogue.flash ("[progress.description][green]Generating " ++ (d.model.get root).name.display
    ++ "...")
  if o.isDryRun then
    let (result, _, _, memory) := (Workbench.new g).run d root path Memory.storage Memory.empty
    report o result (some memory)
  else
    let disk ← Dialogue.disk
    let (result, _, _, disk) := (Workbench.new g).run d root path Disk.storage disk
    Dialogue.setDisk disk
    report o result none

/-- The last steps of `generate`, when it is known what goes where. -/
def generateTo (o : GenerateOptions) (loaded : LoadedModel)
    (settings : Settings) (root : ElementId) (path : Path) : Attempt Nat := do
  let disk ← ofDialogue Dialogue.disk
  let isThere ←
    if o.isDryRun then pure true
    else ofDialogue (Dialogue.ofExcept (disk.isDirectory? path))
  if !isThere then complain (.folderMissing path)
  else
    let generator ← sorted generatorComplaint
      (Registry.bundled.create (languageOf o) (.ready settings) disk)
    ofDialogue (generateInto o generator loaded.design root path)

def generate (o : GenerateOptions) : Attempt Nat := do
  let disk ← ofDialogue Dialogue.disk
  let loaded ← sorted modelComplaint (LoadedModel.ofFile (Path.ofString o.model) disk)
  let settings ← settingsFor o loaded.author
  let root ← namedRoot o loaded
  let chosen : Except Cancellation (ElementId × Path) ← ofDialogue (tryCatch
    (do
      let target ← selectTarget o loaded root settings
      pure (.ok target))
    fun fault =>
      match fault with
      | .cancelled reason => pure (.error reason)
      | fault => throw fault)
  match chosen with
  | .error reason => ofDialogue (cancel reason)
  | .ok (root, path) => generateTo o loaded settings root path

/-- The file of a command, which must have a name. -/
def fileOf (config : Option String) : Except Fault Path :=
  match config with
  | some path => .ok (Path.ofString path)
  | none => .error .wrongType

def configure (config : Option String) : Attempt Nat := do
  let path ← ofDialogue (Dialogue.ofExcept (fileOf config))
  let settings : Except Complaint Settings ← ofDialogue (tryCatch
    (do
      let settings ← Dialogue.configure path
      pure (.ok settings))
    fun fault =>
      match settingsComplaint fault with
      | some c => pure (.error c)
      | none => throw fault)
  match settings with
  | .ok _ => pure 0
  | .error c => complain c

def infoLine (info : LanguageInfo) : String :=
  Text.join "  " [info.language, info.fileExtension, info.kind, Text.join ", " info.aliases]

def languages : Attempt Nat := do
  let infos ← ofDialogue (Dialogue.ofExcept
    (Registry.bundled.languages.mapM fun language => Registry.bundled.info (.str language)))
  ofDialogue (Dialogue.printLines (infos.map infoLine))
  pure 0

def perform (command : Command) : Attempt Nat :=
  match command with
  | .generate o => generate o
  | .configure config => configure config
  | .languages => languages
  | .nothing => do
    ofDialogue (Dialogue.printLines Command.usage)
    pure 1

/-- Carries out a command and prints what it complains of; see `Complaint.message` for `isBrief`. -/
def performOrComplain (isBrief : Bool) (command : Command) : Dialogue Nat := do
  let outcome ← tryCatch (perform command).run fun fault =>
    match fault with
    | .cancelled reason => do
      Dialogue.print ("[yellow]⚠️  Cancelled:[/yellow] " ++ reason.reason)
      pure (.ok 2)
    | fault => throw fault
  match outcome with
  | .ok code => pure code
  | .error complaint => do
    Dialogue.print ("[red]✗ Error:[/red] " ++ complaint.message isBrief)
    pure 1

/-- Runs the program with its arguments. -/
def run (isBrief : Bool) (args : List String) : Dialogue Ending :=
  match Command.ofArguments args with
  | .error reason => pure (.stopped reason)
  | .ok command => do
    let code ← performOrComplain isBrief command
    pure (.returned code)

end GosuForge.Program
