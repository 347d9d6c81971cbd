import GosuForge.Text.Digit
import GosuForge.Text.Line
import GosuForge.Value.Basic

/-!
# Command line arguments

A `Grammar` says which switches a command has and what its other arguments are. `Grammar.parse`
reads arguments by it:

* a switch may be cut short as long as one switch only begins that way, and may have its value after
  an equals sign; one with a single letter may have it right after the letter;
* switches of a single letter without values may be written together;
* what looks like a switch that there is not, is left over, and so is any argument too many;
* a negative number and what holds a space is no switch, nor is anything after two dashes;
* two dashes as an attached value stand for no value, which is an empty list.
-/

namespace GosuForge

inductive SwitchAction
  | mark
  | text
  | number
  | stop
  deriving DecidableEq, Repr

/-- A switch with its spellings; the first is its key among the results. -/
structure Switch where
  key : String
  names : List String
  action : SwitchAction
  deriving DecidableEq, Repr

namespace Switch

def takesValue (s : Switch) : Bool := s.action == .text || s.action == .number

end Switch

/-- What a command takes besides switches: nothing, one argument, or a command and all after it. -/
inductive Operands
  | none
  | one
  | command
  deriving DecidableEq, Repr

structure Grammar where
  switches : List Switch
  operands : Operands
  deriving DecidableEq, Repr

/-- Why a command line is not carried out. -/
inductive Stop
  /-- It cannot be read. -/
  | usage
  /-- It asks for nothing but information. -/
  | information
  deriving DecidableEq, Repr

namespace Stop

def code : Stop → Nat
  | usage => 2
  | information => 0

end Stop

/-- A switch as it was written, with the text attached to it: what stands after an equals sign, or
after the letter of a switch with a single one. -/
structure SwitchUse where
  switch : Switch
  name : String
  attached : Option (List Char)
  deriving Repr

/-- An argument by its looks: plain, two dashes, or a switch, which may be one that there is not. -/
inductive Argument
  | plain (s : String)
  | dashes
  | switch (s : String) (use : Option SwitchUse)
  deriving Repr

namespace Argument

def source : Argument → String
  | plain s => s
  | dashes => "--"
  | switch s _ => s

def isSwitch : Argument → Bool
  | switch _ _ => true
  | _ => false

def isDashes : Argument → Bool
  | dashes => true
  | _ => false

end Argument

/-- What was read: switches with their values, operands, and what was left over. -/
structure Parsed where
  given : List (String × Value)
  operands : Option (List String)
  leftOver : List String
  deriving Repr

namespace Parsed

def empty : Parsed := ⟨[], none, []⟩

def value (p : Parsed) (key : String) : Value := Entries.getD p.given key .null

/-- The text given to a switch, if one is. -/
def text? (p : Parsed) (key : String) : Option String :=
  match p.value key with
  | .str s => some s
  | _ => none

def isMarked (p : Parsed) (key : String) : Bool := Entries.has p.given key

end Parsed

namespace Grammar

/-- All spellings with their switches. -/
def spellings (g : Grammar) : List (String × Switch) :=
  g.switches.flatMap fun s => s.names.map fun name => (name, s)

def find? (g : Grammar) (name : String) : Option Switch := g.spellings.lookup name

/-- A text before its first equals sign, and what follows the sign if there is one. -/
def splitEquals (s : String) : String × Option (List Char) :=
  let (name, rest) := s.toList.span (· ≠ '=')
  (String.ofList name, rest.tail?)

/-- The uses of switches that a text may be short for. -/
def candidates (g : Grammar) (s : String) : List SwitchUse :=
  match s.toList with
  | '-' :: '-' :: _ =>
    let (start, attached) := splitEquals s
    (g.spellings.filter fun (name, _) => Text.startsWith start name).map fun (name, switch) =>
      ⟨switch, name, attached⟩
  | '-' :: c :: rest =>
    g.spellings.filterMap fun (name, switch) =>
      if name = String.ofList ['-', c] then some ⟨switch, name, some rest⟩
      else if Text.startsWith s name then some ⟨switch, name, none⟩
      else none
  | _ => []

/-- Digits, or digits after a point that more digits may precede. -/
def isDecimal (cs : List Char) : Bool :=
  let isDigit (c : Char) : Bool := (Text.digitValue? c).isSome
  match cs.dropWhile isDigit with
  | [] => !cs.isEmpty
  | '.' :: places => !places.isEmpty && places.all isDigit
  | _ => false

/-- A line feed may follow the number. -/
def isNegativeNumber (s : String) : Bool :=
  match s.toList with
  | '-' :: cs => isDecimal (if cs.getLast? = some '\n' then cs.dropLast else cs)
  | _ => false

/-- The use of a switch that is written out in full, with a value or without. -/
def exactUse? (g : Grammar) (s : String) : Option SwitchUse :=
  match g.find? s with
  | some switch => some ⟨switch, s, none⟩
  | none =>
    match splitEquals s with
    | (_, none) => none
    | (name, attached) => (g.find? name).map fun switch => ⟨switch, name, attached⟩

/-- An argument by its looks; one that is short for several switches is an error. -/
def classify (g : Grammar) (s : String) : Except Stop Argument :=
  if !Text.startsWith "-" s || s = "-" then .ok (.plain s)
  else
    match g.exactUse? s with
    | some use => .ok (.switch s (some use))
    | none =>
      match g.candidates s with
      | [use] => .ok (.switch s (some use))
      | [] =>
        if isNegativeNumber s || s.toList.contains ' ' then .ok (.plain s)
        else .ok (.switch s none)
      | _ => .error .usage

/-- All arguments by their looks; after two dashes they are plain. -/
def classifyAll (g : Grammar) : List String → Except Stop (List Argument)
  | [] => .ok []
  | "--" :: rest => .ok (.dashes :: rest.map .plain)
  | s :: rest => do
    let a ← g.classify s
    let others ← g.classifyAll rest
    .ok (a :: others)

/-- How many of the arguments are taken as operands where they stand, and which texts they are. -/
def takeOperands (operands : Operands) (args : List Argument) : Option (Nat × List String) :=
  let start := args.takeWhile Argument.isDashes
  match operands, args.drop start.length with
  | .command, .plain _ :: _ => some (args.length, args.map Argument.source)
  | .one, .plain s :: rest =>
    some (start.length + 1 + (rest.takeWhile Argument.isDashes).length, [s])
  | _, _ => none

/-- What a use of a switch stands for. -/
structure Expansion where
  /-- Switches with their values. -/
  found : List (Switch × Option String)
  /-- Whether the argument after the use is the value of the last switch. -/
  takesNext : Bool
  deriving Repr

/-- A switch without an attached text takes a plain argument that follows it. -/
def expandAlone (next : List Argument) (switch : Switch) : Except Stop Expansion :=
  if switch.takesValue then
    match next with
    | .plain value :: _ => .ok ⟨[(switch, some value)], true⟩
    | _ => .error .usage
  else .ok ⟨[(switch, none)], false⟩

/-- Expands a switch with the text attached to it: its value or, if it takes none, the letter of
another switch with what is attached to that one. -/
def expandLetters (g : Grammar) (next : List Argument) (switch : Switch) :
    List Char → Except Stop Expansion
  | [] => if switch.takesValue then .ok ⟨[(switch, some "")], false⟩ else .error .usage
  | c :: rest =>
    if switch.takesValue then .ok ⟨[(switch, some (String.ofList (c :: rest)))], false⟩
    else
      match g.find? (String.ofList ['-', c]) with
      | none => .error .usage
      | some other =>
        let others := if rest.isEmpty then expandAlone next other
          else expandLetters g next other rest
        others.map fun e => { e with found := (switch, none) :: e.found }

/-- The expansion of a use that `next` follows; only a single letter has others attached. -/
def expand (g : Grammar) (next : List Argument) (use : SwitchUse) : Except Stop Expansion :=
  match use.attached with
  | none => expandAlone next use.switch
  | some attached =>
    if Text.startsWith "--" use.name && !use.switch.takesValue then .error .usage
    else g.expandLetters next use.switch attached

/-- The value that a text gives to a switch: two dashes stand for none. -/
def valueOf (read : String → Option Value) (s : String) : Except Stop Value :=
  if s = "--" then .ok (.arr [])
  else
    match read s with
    | some v => .ok v
    | none => .error .usage

/-- Notes one switch and its value. -/
def apply (p : Parsed) (switch : Switch) (value : Option String) : Except Stop Parsed :=
  let put (v : Value) : Parsed := { p with given := Entries.put switch.key v p.given }
  match switch.action, value with
  | .stop, _ => .error .information
  | .mark, _ => .ok (put (.bool true))
  | _, none => .error .usage
  | .text, some s => (valueOf (fun s => some (.str s)) s).map put
  | .number, some s => (valueOf (fun s => (Text.readInt? s).map .int) s).map put

def applyAll (p : Parsed) : List (Switch × Option String) → Except Stop Parsed
  | [] => .ok p
  | (switch, value) :: rest => do
    let p ← apply p switch value
    applyAll p rest

def leave (p : Parsed) (texts : List String) : Parsed :=
  { p with leftOver := p.leftOver ++ texts }

/-- Reads arguments from left to right; the fuel exceeds twice their number. -/
def consume (g : Grammar) (p : Parsed) : Nat → List Argument → Except Stop Parsed
  | 0, args => .ok (leave p (args.map Argument.source))
  | fuel + 1, args =>
    let taken := if p.operands.isSome then none else takeOperands g.operands args
    match args with
    | [] => .ok p
    | .switch s none :: rest => g.consume (leave p [s]) fuel rest
    | .switch _ (some use) :: rest => do
      let e ← g.expand rest use
      let p ← applyAll p e.found
      g.consume p fuel (if e.takesNext then rest.drop 1 else rest)
    | _ =>
      match taken with
      | some (n, texts) => g.consume { p with operands := some texts } fuel (args.drop n)
      | none =>
        let plain := args.takeWhile fun a => !a.isSwitch
        g.consume (leave p (plain.map Argument.source)) fuel (args.drop plain.length)

/-- Reads arguments; an operand that is required must be there. -/
def parse (g : Grammar) (args : List String) : Except Stop Parsed := do
  let found ← g.classifyAll args
  let p ← g.consume .empty (2 * found.length + 1) found
  if g.operands = .one && p.operands.isNone then .error .usage else .ok p

end Grammar

end GosuForge
