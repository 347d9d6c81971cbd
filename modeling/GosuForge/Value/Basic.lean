import GosuForge.Decimal.Binary64

/-!
# Values

The data that documents, settings and template contexts are made of. An object is a list of entries
in the order in which their keys were first given; `Entries.put` keeps a key in its first place. What
a model keeps is no data, but may stand in the place of a datum under its number there.
-/

namespace GosuForge

inductive Value
  | null
  | bool (b : Bool)
  | int (n : Int)
  | float (x : Binary64)
  | str (s : String)
  | arr (items : List Value)
  | obj (entries : List (String × Value))
  /-- An element of a model, or a list that it keeps. -/
  | kept (id : Nat)
  deriving Repr, Inhabited

/-- Named values in order. -/
abbrev Entries := List (String × Value)

namespace Entries

def get? (entries : Entries) (key : String) : Option Value := entries.lookup key

def has (entries : Entries) (key : String) : Bool := (entries.get? key).isSome

def getD (entries : Entries) (key : String) (default : Value) : Value :=
  (entries.get? key).getD default

/-- Gives `key` the value `v`: in place if the key is there, else at the end. -/
def put (key : String) (v : Value) : Entries → Entries
  | [] => [(key, v)]
  | (k, w) :: rest => if k = key then (k, v) :: rest else (k, w) :: put key v rest

/-- Gives `key` the value `v` unless it has one. -/
def putNew (key : String) (v : Value) (entries : Entries) : Entries :=
  if entries.has key then entries else entries ++ [(key, v)]

/-- The entries of `later` on top of those of `earlier`. -/
def update (earlier later : Entries) : Entries :=
  later.foldl (fun entries (key, v) => entries.put key v) earlier

end Entries

namespace Value

/-- Everything counts as true but `null`, `false`, zero and what is empty. -/
def truthy : Value → Bool
  | null => false
  | bool b => b
  | int n => n != 0
  | float x => !x.isZero
  | str s => s != ""
  | arr items => !items.isEmpty
  | obj entries => !entries.isEmpty
  | kept _ => true

def isNull : Value → Bool
  | null => true
  | _ => false

/-- The value, or `other` in place of one that does not count as true. -/
def orElse (v other : Value) : Value := if v.truthy then v else other

/-- Whether the value may stand as a key: lists and objects may not. -/
def isKey : Value → Bool
  | arr _ => false
  | obj _ => false
  | _ => true

/-- Numbers and truth values are the same key when they are equal as numbers. -/
def numeral? : Value → Option Int
  | bool b => some (if b then 1 else 0)
  | int n => some n
  | float x => x.toInt?
  | _ => none

/-- Whether two values are the same key. -/
def sameKey (v w : Value) : Bool :=
  match v, w with
  | null, null => true
  | str s, str t => s == t
  | kept i, kept j => i == j
  | float x, float y => x.sameValue y
  | _, _ =>
    match v.numeral?, w.numeral? with
    | some m, some n => m == n
    | _, _ => false

/-- What walking over a value yields: the items of a list, the characters of a text, the keys of an
object; nothing else can be walked over. -/
def items? : Value → Option (List Value)
  | arr items => some items
  | str s => some (s.toList.map fun c => str c.toString)
  | obj entries => some (entries.map fun (key, _) => str key)
  | _ => none

/-- Zero or one as a truth value counts as a whole number, too. -/
def wholeNumber? : Value → Option Int
  | bool b => some (if b then 1 else 0)
  | int n => some n
  | _ => none

mutual

/-- How many lists and objects stand inside each other at most. -/
def nesting : Value → Nat
  | arr items => nestingOfItems items + 1
  | obj entries => nestingOfEntries entries + 1
  | _ => 0
termination_by structural x => x

def nestingOfItems : List Value → Nat
  | [] => 0
  | v :: rest => max v.nesting (nestingOfItems rest)
termination_by structural x => x

def nestingOfEntries : List (String × Value) → Nat
  | [] => 0
  | (_, v) :: rest => max v.nesting (nestingOfEntries rest)
termination_by structural x => x

end

mutual

/-- The value with `f` in the place of what is kept. -/
def withKept (f : Nat → Value) : Value → Value
  | arr items => arr (itemsWithKept f items)
  | obj entries => obj (entriesWithKept f entries)
  | kept id => f id
  | v => v
termination_by structural x => x

def itemsWithKept (f : Nat → Value) : List Value → List Value
  | [] => []
  | v :: rest => v.withKept f :: itemsWithKept f rest
termination_by structural x => x

def entriesWithKept (f : Nat → Value) : List (String × Value) → List (String × Value)
  | [] => []
  | (key, v) :: rest => (key, v.withKept f) :: entriesWithKept f rest
termination_by structural x => x

end

end Value

end GosuForge
