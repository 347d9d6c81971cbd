import GosuForge.Generation.Plan
import GosuForge.Storage.Basic

/-!
# Runs

A run carries out a plan at a destination and stops at the first fault. `Generator.report` tells how
it went: the paths made so far, and on success a summary.
-/

namespace GosuForge

/-- What has been made so far, in order. -/
structure Progress where
  files : List Path
  directories : List Path
  deriving DecidableEq, Repr

namespace Progress

def none : Progress := ⟨[], []⟩

end Progress

namespace Step

def perform {σ : Type} (storage : Storage σ) (step : Step) (progress : Progress) (state : σ) :
    Except Fault Unit × Progress × σ :=
  match step with
  | .directory path =>
    match storage.createDirectory path state with
    | (.ok (), state) =>
      (.ok (), { progress with directories := progress.directories ++ [path] }, state)
    | (.error fault, state) => (.error fault, progress, state)
  | .file path content =>
    match storage.writeText path content state with
    | (.ok (), state) => (.ok (), { progress with files := progress.files ++ [path] }, state)
    | (.error fault, state) => (.error fault, progress, state)

end Step

namespace Plan

/-- Carries out the steps in order up to the first fault, and tells the model then. -/
def perform {σ : Type} (storage : Storage σ) : Plan → Model → Progress → σ →
    Except Fault Unit × Model × Progress × σ
  | [], m, progress, state => (.ok (), m, progress, state)
  | ⟨.error fault, m⟩ :: _, _, progress, state => (.error fault, m, progress, state)
  | ⟨.ok step, m⟩ :: rest, _, progress, state =>
    match step.perform storage progress state with
    | (.ok (), progress, state) => perform storage rest m progress state
    | (.error fault, progress, state) => (.error fault, m, progress, state)

end Plan

/-- How a run ended. The warnings are a list and the metadata an object, unless another value was
given for them that counts as true. -/
structure GenerationResult where
  success : Bool
  cancelled : Bool
  files : List Path
  directories : List Path
  warnings : Value
  metadata : Value
  errorMessage : Value
  fault : Option Fault
  deriving Repr

namespace GenerationResult

def succeeded (files directories : List Path) (warnings metadata : Value) : GenerationResult :=
  ⟨true, false, files, directories, warnings.orElse (.arr []), metadata.orElse (.obj []), .null,
    none⟩

def failed (message : Value) (fault : Option Fault) (files directories : List Path) :
    GenerationResult :=
  ⟨false, false, files, directories, .arr [], .obj [], message, fault⟩

/-- A run that was dismissed before it started. -/
def dismissed (message : Value) : GenerationResult :=
  ⟨false, true, [], [], .arr [], .obj [], message, none⟩

def dismissalMessage : String := "Generation cancelled"

end GenerationResult

namespace Generator

/-- A destination that fails speaks for itself; any other fault is one of the generation. -/
def failureMessage (fault : Fault) : String :=
  match fault with
  | .destination _ _ _ => fault.message
  | .cancelled _ => fault.message
  | _ => "Code generation failed: " ++ fault.message

/-- What is reported of a run that succeeded. -/
def summary (g : Generator) (root : Element) (path : Path) (progress : Progress) : Entries :=
  [("language", .str g.language), ("file_extension", .str g.settings.sourceExtension),
   ("root", root.name), ("output_path", .str path.toString),
   ("file_count", .int progress.files.length),
   ("directory_count", .int progress.directories.length)]

def report (g : Generator) (root : Element) (path : Path) (outcome : Except Fault Unit)
    (progress : Progress) : GenerationResult :=
  match outcome with
  | .ok () =>
    .succeeded progress.files progress.directories .null (.obj (g.summary root path progress))
  | .error fault =>
    .failed (.str (failureMessage fault)) (some fault) progress.files progress.directories

end Generator

end GosuForge
