import GosuForge.Json.Writer
import GosuForge.Fault

/-!
# Values read as objects

`Value.asEntries` reads a value as an object: an object as it is, and a list whose items are pairs
of a key and a value. Keys that are no texts are written as JSON writes them.
-/

namespace GosuForge

namespace Value

/-- The text under which a key that is no text appears in an object. -/
def keyText : Value → String
  | str s => s
  | v => Json.compact v

/-- Gives the key its value: in place if there is such a key, else at the end. -/
def putPair (key v : Value) : List (Value × Value) → List (Value × Value)
  | [] => [(key, v)]
  | (k, w) :: rest => if k.sameKey key then (k, v) :: rest else (k, w) :: putPair key v rest

def asPair (item : Value) : Except Fault (Value × Value) :=
  match item.items? with
  | none => .error .wrongType
  | some [key, v] => if key.isKey then .ok (key, v) else .error .wrongType
  | some _ => .error .badValue

/-- Reads pairs one after the other, after the pairs already read. -/
def readPairs (pairs : List (Value × Value)) : List Value → Except Fault (List (Value × Value))
  | [] => .ok pairs
  | item :: rest => do
    let (key, v) ← asPair item
    readPairs (putPair key v pairs) rest

/-- The pairs of an object or of a list of pairs, after the pairs already read. -/
def readOnto (pairs : List (Value × Value)) : Value → Except Fault (List (Value × Value))
  | obj entries => .ok (entries.foldl (fun pairs (key, v) => putPair (str key) v pairs) pairs)
  | v =>
    match v.items? with
    | none => .error .wrongType
    | some items => readPairs pairs items

def asEntries : Value → Except Fault Entries
  | obj entries => .ok entries
  | v => do
    let pairs ← v.readOnto []
    .ok (pairs.foldl (fun entries (key, w) => entries.put key.keyText w) [])

end Value

end GosuForge
