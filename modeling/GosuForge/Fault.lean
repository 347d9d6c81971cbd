import GosuForge.Document.Defect
import GosuForge.Settings.Defect

/-!
# Faults

Everything that can go wrong, by cause. `Fault.message?` words those faults that are about models,
settings, generators and destinations; a fault in the data that is handed in, such as a number where
a list is needed, has no wording of its own.
-/

namespace GosuForge

/-- Why nothing was generated or saved although nothing failed. -/
inductive Cancellation
  | noElement
  | noFolder
  | notSaved
  | dismissed
  deriving DecidableEq, Repr

namespace Cancellation

def reason : Cancellation → String
  | noElement => "No element selected"
  | noFolder => "No output folder selected"
  | notSaved => "Preferences not saved"
  | dismissed => "Prompt dismissed"

end Cancellation

inductive Fault
  /-- A value of a kind that the operation does not take. -/
  | wrongType
  /-- A member that the value does not have. -/
  | noSuchMember
  /-- A name or path that is not there. -/
  | missingKey
  | badValue
  /-- A number that is too large for what it counts. -/
  | tooLarge
  /-- More than there is room for. -/
  | outOfMemory
  /-- A place that a list does not have. -/
  | outOfRange
  | endOfInput
  | nestingTooDeep
  | homeUnknown
  | storage (fault : StorageFault)
  | setting (key : String) (value : Value)
  | outdentBelowZero
  | modelMissing (path : Path)
  | model (defect : ModelDefect)
  | settings (defect : SettingsDefect)
  | notGenerator
  | unknownLanguage (language : String) (available : List String)
  | settingsKind (kind : String)
  | creation (language : String) (cause : Fault)
  | destination (path : Path) (operation : StorageOperation) (cause : StorageFault)
  | cancelled (reason : Cancellation)
  /-- A template that cannot be rendered. -/
  | template
  | templateSyntax
  | markup
  deriving Repr

namespace Fault

/-- The wording of a fault that has one. -/
def message? : Fault → Option String
  | setting key value => some ("Invalid " ++ key ++ ": " ++ value.display)
  | outdentBelowZero => some "Cannot outdent below zero indentation"
  | modelMissing path => some ("Model file not found: " ++ path.toString)
  | model defect => some defect.message
  | settings defect => some defect.message
  | notGenerator => some "Generator class must inherit from CodeGenerator"
  | unknownLanguage language available =>
    some ("No generator registered for language: " ++ language ++ ". Available: "
      ++ Text.join ", " available)
  | settingsKind kind => some ("Invalid config type: <class " ++ Text.quoted kind ++ ">")
  | creation language cause =>
    cause.message?.map fun text => "Failed to create " ++ language ++ " generator: " ++ text
  | destination path operation cause =>
    some ("Failed to " ++ operation.phrase ++ " " ++ path.toString ++ ": " ++ cause.text)
  | cancelled reason => some reason.reason
  | _ => none

def message (fault : Fault) : String := fault.message?.getD ""

end Fault

end GosuForge
