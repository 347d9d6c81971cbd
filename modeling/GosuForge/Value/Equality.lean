import GosuForge.Value.Basic

/-!
# Equality of values

`Value.equal` compares values as data: numbers and truth values by their amount, lists item by item,
and objects by what they hold under each key, in whatever order.
-/

namespace GosuForge.Value

mutual

def equal : Value → Value → Bool
  | arr vs, w =>
    match w with
    | arr ws => equalItems vs ws
    | _ => false
  | obj vs, w =>
    match w with
    | obj ws => vs.length == ws.length && equalEntries vs ws
    | _ => false
  | v, w => v.sameKey w
termination_by structural v => v

def equalItems : List Value → List Value → Bool
  | [], ws => ws.isEmpty
  | v :: vs, ws =>
    match ws with
    | [] => false
    | w :: ws => equal v w && equalItems vs ws
termination_by structural vs => vs

/-- Whether each entry has an equal one among `ws`. -/
def equalEntries : List (String × Value) → List (String × Value) → Bool
  | [], _ => true
  | (key, v) :: vs, ws =>
    (match ws.lookup key with
    | some w => equal v w
    | none => false) && equalEntries vs ws
termination_by structural vs => vs

end

end GosuForge.Value
