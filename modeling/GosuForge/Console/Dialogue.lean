import GosuForge.Console.Table
import GosuForge.Storage.Disk
import GosuForge.Text.Case
import GosuForge.Text.Digit

/-!
# Dialogues

A dialogue asks questions and prints lines. It reads one answer for each question; an empty answer
takes the default, and an answer that does not fit is asked for again.

* `Dialogue.askChoice`, `askYes`, `askNumber`, `askText`: the kinds of questions;
* `Dialogue.print`, `printTable`: print texts with markup.
-/

namespace GosuForge

structure Console where
  answers : List String
  disk : Disk
  printed : List String
  /-- How many lines stood there when a question first found no answer, if one did. -/
  starvedAt : Option Nat
  home : Option Path
  deriving DecidableEq, Repr

namespace Console

def new (answers : List String) (disk : Disk) : Console := ⟨answers, disk, [], none, none⟩

end Console

/-- What a dialogue does to a console, also when it fails. -/
abbrev Dialogue := EStateM Fault Console

namespace Dialogue

def ofExcept {α : Type} (outcome : Except Fault α) : Dialogue α :=
  match outcome with
  | .ok x => pure x
  | .error fault => throw fault

def disk : Dialogue Disk := do
  let console ← get
  pure console.disk

def setDisk (disk : Disk) : Dialogue Unit := modify fun console => { console with disk }

/-- Prints lines as they are. -/
def printLines (lines : List String) : Dialogue Unit :=
  modify fun console => { console with printed := console.printed ++ lines }

/-- Prints a text with markup. -/
def print (text : String) : Dialogue Unit := do
  let shown ← ofExcept (Markup.plain text)
  printLines (Text.splitLines shown)

def printTable (columns : List Column) : Dialogue Unit := do
  let lines ← ofExcept (Table.lines columns)
  printLines lines

/-- Prepares a text with markup that would be shown for a moment; no line of it is printed. -/
def flash (text : String) : Dialogue Unit := do
  let _ ← ofExcept (Markup.read text)

/-- The first of some answers that is empty or fits, with the answers after it. -/
def firstFitting {α : Type} (read : String → Option α) (default : α) :
    List String → Option (α × List String)
  | [] => none
  | answer :: rest =>
    if answer = "" then some (default, rest)
    else
      match read answer with
      | some x => some (x, rest)
      | none => firstFitting read default rest

/-- Asks until an answer is empty, which takes the default, or fits. -/
def ask {α : Type} (question : String) (read : String → Option α) (default : α) : Dialogue α := do
  print question
  let console ← get
  match firstFitting read default console.answers with
  | some (x, rest) => do
    set { console with answers := rest }
    pure x
  | none => do
    set { console with answers := [], starvedAt := console.starvedAt.or console.printed.length }
    throw .endOfInput

def askText (question : String) (default : Value) : Dialogue Value :=
  ask question (fun answer => some (.str (Text.trim answer))) default

def askChoice (question : String) (choices : List String) (default : String) : Dialogue String :=
  ask question (fun answer =>
    let choice := Text.trim answer
    if choices.contains choice then some choice else none) default

def readYes (answer : String) : Option Value :=
  match Text.lower (Text.trim answer) with
  | "y" => some (.bool true)
  | "n" => some (.bool false)
  | _ => none

def askYes (question : String) (default : Value) : Dialogue Value := ask question readYes default

def askNumber (question : String) (default : Value) : Dialogue Value :=
  ask question (fun answer => (Text.readInt? (Text.trim answer)).map .int) default

/-- Ends a dialogue that ran out of answers as one that was dismissed. -/
def orDismiss {α : Type} (dialogue : Dialogue α) : Dialogue α :=
  tryCatch dialogue fun fault =>
    match fault with
    | .endOfInput => throw (.cancelled .dismissed)
    | fault => throw fault

end Dialogue

end GosuForge
