import GosuForge.Console.Arguments

/-!
# Commands

The commands of the program and how they are read from its arguments.
-/

namespace GosuForge

/-- What `generate` is asked for. The language and the indentation may have been given without a
value: no language is then known, and the indentation is what was given in its place. -/
structure GenerateOptions where
  model : String
  output : Option String
  root : Option String
  language : Option String
  config : Option String
  withoutDocs : Bool
  useTabs : Bool
  indent : Option Value
  author : Option String
  isDryRun : Bool
  isVerbose : Bool
  deriving Repr

/-- The commands; the file of `configure` may have been given without a value. -/
inductive Command
  | generate (options : GenerateOptions)
  | configure (config : Option String)
  | languages
  | nothing
  deriving Repr

namespace Command

def programName : String := "umlgen"

def version : String := "0.1.0"

def defaultConfig : String := "umlgen.json"

def usage : List String :=
  ["usage: " ++ programName ++ " [-h] [--version] generate | configure | languages",
   "  generate MODEL [-o DIR] [--root NAME] [-l LANGUAGE] [--config FILE] [--no-docs] [--tabs]",
   "           [--indent N] [--author NAME] [--dry-run] [--verbose]",
   "  configure [--config FILE]", "  languages"]

def help : Switch := ⟨"help", ["-h", "--help"], .stop⟩

def mainGrammar : Grammar := ⟨[help, ⟨"version", ["--version"], .stop⟩], .command⟩

def generateGrammar : Grammar where
  switches :=
    [help, ⟨"output", ["--output", "-o"], .text⟩, ⟨"root", ["--root"], .text⟩,
     ⟨"language", ["--language", "-l"], .text⟩, ⟨"config", ["--config"], .text⟩,
     ⟨"no_docs", ["--no-docs"], .mark⟩, ⟨"tabs", ["--tabs"], .mark⟩,
     ⟨"indent", ["--indent"], .number⟩, ⟨"author", ["--author"], .text⟩,
     ⟨"dry_run", ["--dry-run"], .mark⟩, ⟨"verbose", ["--verbose"], .mark⟩]
  operands := .one

def configureGrammar : Grammar := ⟨[help, ⟨"config", ["--config"], .text⟩], .none⟩

def languagesGrammar : Grammar := ⟨[help], .none⟩

/-- The text given to a switch, or `default` if the switch is not used. -/
def textOr (p : Parsed) (key default : String) : Option String :=
  if p.isMarked key then p.text? key else some default

def generateOptions (p : Parsed) : GenerateOptions where
  model := (p.operands.bind List.head?).getD ""
  output := p.text? "output"
  root := p.text? "root"
  language := textOr p "language" "gosu"
  config := p.text? "config"
  withoutDocs := p.isMarked "no_docs"
  useTabs := p.isMarked "tabs"
  indent := Entries.get? p.given "indent"
  author := p.text? "author"
  isDryRun := p.isMarked "dry_run"
  isVerbose := p.isMarked "verbose"

/-- Reads a command by its name and the arguments after it, with what is left over. -/
def ofOperands : List String → Except Stop (Command × List String)
  | "generate" :: args => do
    let p ← generateGrammar.parse args
    .ok (generate (generateOptions p), p.leftOver)
  | "configure" :: args => do
    let p ← configureGrammar.parse args
    .ok (configure (textOr p "config" defaultConfig), p.leftOver)
  | "languages" :: args => do
    let p ← languagesGrammar.parse args
    .ok (languages, p.leftOver)
  | _ => .error .usage

/-- Reads the arguments of the program, of which none may be left over. -/
def ofArguments (args : List String) : Except Stop Command := do
  let p ← mainGrammar.parse args
  let (command, leftOver) ← match p.operands with
    | some operands => ofOperands operands
    | none => .ok (nothing, [])
  if p.leftOver.isEmpty && leftOver.isEmpty then .ok command else .error .usage

end Command

end GosuForge
