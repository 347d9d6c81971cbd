import GosuForge.Proofs.Entries
import GosuForge.Proofs.Outcome
import GosuForge.Value.Equality
import GosuForge.Value.Record

/-!
# Values that are equal, and how deep they are

* `Value.same_iff`: values can be told apart by computation;
* `Value.IsJson`: what JSON can write and read;
* `Value.equal_refl`: such a value is equal to itself;
* `Value.nesting_le_of_equal`: an equal value is at least as deep, `Value.nesting_lt_of_asEntries`:
  what a value has under a key is less deep than the value.
-/

namespace GosuForge.Value

/-! ## One and the same value -/

mutual

/-- Whether two values are one and the same. -/
def same : Value → Value → Bool
  | null, null => true
  | bool b, bool c => b == c
  | int m, int n => m == n
  | float x, float y => x == y
  | str s, str t => s == t
  | arr vs, arr ws => sameItems vs ws
  | obj vs, obj ws => sameEntries vs ws
  | kept i, kept j => i == j
  | _, _ => false
termination_by structural v => v

def sameItems : List Value → List Value → Bool
  | [], [] => true
  | v :: vs, w :: ws => same v w && sameItems vs ws
  | _, _ => false
termination_by structural vs => vs

def sameEntries : List (String × Value) → List (String × Value) → Bool
  | [], [] => true
  | (key, v) :: vs, (k, w) :: ws => key == k && same v w && sameEntries vs ws
  | _, _ => false
termination_by structural vs => vs

end

mutual

theorem same_iff : ∀ {v w : Value}, same v w = true ↔ v = w
  | .null, w | .bool _, w | .int _, w | .float _, w | .str _, w | .kept _, w => by
    cases w <;> simp [same]
  | .arr vs, w => by
    cases w <;> simp [same, sameItems_iff]
  | .obj vs, w => by
    cases w <;> simp [same, sameEntries_iff]

theorem sameItems_iff : ∀ {vs ws : List Value}, sameItems vs ws = true ↔ vs = ws
  | [], ws => by cases ws <;> simp [sameItems]
  | v :: vs, ws => by
    cases ws <;> simp [sameItems, same_iff, sameItems_iff]

theorem sameEntries_iff : ∀ {vs ws : List (String × Value)}, sameEntries vs ws = true ↔ vs = ws
  | [], ws => by cases ws <;> simp [sameEntries]
  | (key, v) :: vs, ws => by
    cases ws <;> simp [sameEntries, same_iff, sameEntries_iff, and_assoc, Prod.ext_iff]

end

instance : DecidableEq Value := fun _ _ => decidable_of_iff _ same_iff

/-! ## Equal values -/

/-- A value that JSON can write and read: no number is undefined, no object has a key twice, and
nothing is kept in a model. -/
inductive IsJson : Value → Prop
  | null : IsJson .null
  | bool (b : Bool) : IsJson (.bool b)
  | int (n : Int) : IsJson (.int n)
  | float (x : Binary64) : x ≠ .nan → IsJson (.float x)
  | str (s : String) : IsJson (.str s)
  | arr (items : List Value) : (∀ v ∈ items, IsJson v) → IsJson (.arr items)
  | obj (entries : Entries) : entries.keys.Nodup → (∀ entry ∈ entries, IsJson entry.2) →
      IsJson (.obj entries)

theorem equalItems_refl {vs : List Value} (h : ∀ v ∈ vs, v.equal v = true) :
    equalItems vs vs = true := by
  induction vs with
  | nil => rfl
  | cons v vs ih =>
    obtain ⟨hv, hvs⟩ := List.forall_mem_cons.mp h
    rw [equalItems, hv, ih hvs]
    rfl

theorem equalEntries_iff {vs ws : Entries} :
    equalEntries vs ws = true ↔
      ∀ entry ∈ vs, ∃ w, ws.get? entry.1 = some w ∧ entry.2.equal w = true := by
  induction vs with
  | nil => simp [equalEntries]
  | cons entry vs ih =>
    obtain ⟨key, v⟩ := entry
    rw [equalEntries, Bool.and_eq_true, ih, List.forall_mem_cons]
    refine and_congr_left fun _ => ?_
    dsimp only [Entries.get?]
    cases List.lookup key ws with
    | none => simp
    | some w => simp

theorem equal_obj {vs : Entries} {w : Value} :
    (obj vs).equal w = true ↔ ∃ ws : Entries, w = obj ws ∧ vs.length = ws.length ∧
      ∀ entry ∈ vs, ∃ w, ws.get? entry.1 = some w ∧ entry.2.equal w = true := by
  cases w with
  | obj ws =>
    rw [equal, Bool.and_eq_true, equalEntries_iff, beq_iff_eq]
    constructor
    · rintro ⟨length, entries⟩
      exact ⟨ws, rfl, length, entries⟩
    · rintro ⟨ws', e, length, entries⟩
      cases e
      exact ⟨length, entries⟩
  | _ => simp [equal]

theorem equal_refl {v : Value} (h : v.IsJson) : v.equal v = true := by
  induction h with
  | null => rfl
  | bool b => cases b <;> rfl
  | int n => simp [equal, sameKey, numeral?]
  | float x hx =>
    cases x with
    | nan => exact absurd rfl hx
    | _ => simp [equal, sameKey, Binary64.sameValue]
  | str s => simp [equal, sameKey]
  | arr items _ ih =>
    rw [equal]
    exact equalItems_refl ih
  | obj entries nodup _ ih =>
    refine equal_obj.mpr ⟨entries, rfl, rfl, fun entry he => ⟨entry.2, ?_, ih entry he⟩⟩
    exact Association.lookup_of_mem nodup he

/-! ## Depth -/

theorem nesting_le_of_mem_items {items : List Value} {v : Value} (h : v ∈ items) :
    v.nesting ≤ nestingOfItems items := by
  induction items with
  | nil => exact absurd h List.not_mem_nil
  | cons w rest ih =>
    rw [nestingOfItems]
    rcases List.mem_cons.mp h with rfl | h
    · exact Nat.le_max_left _ _
    · exact Nat.le_trans (ih h) (Nat.le_max_right _ _)

theorem nesting_le_of_mem_entries {entries : Entries} {key : String} {v : Value}
    (h : (key, v) ∈ entries) : v.nesting ≤ nestingOfEntries entries := by
  induction entries with
  | nil => exact absurd h List.not_mem_nil
  | cons entry rest ih =>
    obtain ⟨k, w⟩ := entry
    rw [nestingOfEntries]
    rcases List.mem_cons.mp h with e | h
    · cases e
      exact Nat.le_max_left _ _
    · exact Nat.le_trans (ih h) (Nat.le_max_right _ _)

mutual

/-- Only a value that is at least as deep can be equal. -/
theorem nesting_le_of_equal : ∀ {v w : Value}, v.equal w = true → v.nesting ≤ w.nesting
  | .arr vs, w, h => by
    cases w with
    | arr ws =>
      rw [equal] at h
      exact Nat.succ_le_succ (nestingOfItems_le_of_equal h)
    | _ => simp [equal] at h
  | .obj vs, w, h => by
    cases w with
    | obj ws =>
      rw [equal, Bool.and_eq_true] at h
      exact Nat.succ_le_succ (nestingOfEntries_le_of_equal h.2)
    | _ => simp [equal] at h
  | .null, _, _ => Nat.zero_le _
  | .bool _, _, _ => Nat.zero_le _
  | .int _, _, _ => Nat.zero_le _
  | .float _, _, _ => Nat.zero_le _
  | .str _, _, _ => Nat.zero_le _
  | .kept _, _, _ => Nat.zero_le _

theorem nestingOfItems_le_of_equal : ∀ {vs ws : List Value},
    equalItems vs ws = true → nestingOfItems vs ≤ nestingOfItems ws
  | [], _, _ => Nat.zero_le _
  | v :: vs, ws, h => by
    cases ws with
    | nil => cases h
    | cons w ws =>
      rw [equalItems, Bool.and_eq_true] at h
      rw [nestingOfItems, nestingOfItems]
      have first := nesting_le_of_equal h.1
      have rest := nestingOfItems_le_of_equal h.2
      omega

theorem nestingOfEntries_le_of_equal : ∀ {vs ws : Entries},
    equalEntries vs ws = true → nestingOfEntries vs ≤ nestingOfEntries ws
  | [], _, _ => Nat.zero_le _
  | (key, v) :: vs, ws, h => by
    rw [equalEntries, Bool.and_eq_true] at h
    rw [nestingOfEntries]
    have rest := nestingOfEntries_le_of_equal h.2
    have first : v.nesting ≤ nestingOfEntries ws := by
      have found := h.1
      split at found
      · rename_i w hw
        exact Nat.le_trans (nesting_le_of_equal found)
          (nesting_le_of_mem_entries (Association.mem_of_lookup hw))
      · cases found
    omega

end

/-! ## Values read as objects -/

theorem nesting_le_of_items? {v item : Value} {items : List Value} (h : v.items? = some items)
    (hi : item ∈ items) : item.nesting ≤ v.nesting := by
  cases v with
  | arr _ =>
    cases h
    exact Nat.le_succ_of_le (nesting_le_of_mem_items hi)
  | str _ =>
    cases h
    obtain ⟨c, -, rfl⟩ := List.mem_map.mp hi
    exact Nat.zero_le _
  | obj _ =>
    cases h
    obtain ⟨entry, -, rfl⟩ := List.mem_map.mp hi
    exact Nat.zero_le _
  | _ => cases h

theorem nesting_le_of_asPair {item key v : Value} (h : asPair item = .ok (key, v)) :
    v.nesting ≤ item.nesting := by
  rw [asPair] at h
  split at h
  · cases h
  · rename_i key' v' hi
    split at h
    · cases h
      exact nesting_le_of_items? hi (by simp)
    · cases h
  · cases h

theorem mem_putPair {key v : Value} {pairs : List (Value × Value)} {pair : Value × Value}
    (h : pair ∈ putPair key v pairs) : pair.2 = v ∨ pair ∈ pairs := by
  induction pairs with
  | nil =>
    rw [List.mem_singleton.mp h]
    exact .inl rfl
  | cons first rest ih =>
    obtain ⟨k, w⟩ := first
    rw [putPair] at h
    split at h <;> rcases List.mem_cons.mp h with rfl | h
    · exact .inl rfl
    · exact .inr (List.mem_cons_of_mem _ h)
    · exact .inr List.mem_cons_self
    · exact (ih h).imp id (List.mem_cons_of_mem _)

/-- Where neither the pairs before nor the items are deeper than a bound, no pair is. -/
theorem nesting_le_of_readPairs {n : Nat} {items : List Value} {pairs pairs' : List (Value × Value)}
    (hp : ∀ pair ∈ pairs, pair.2.nesting ≤ n) (hi : ∀ item ∈ items, item.nesting ≤ n)
    (h : readPairs pairs items = .ok pairs') : ∀ pair ∈ pairs', pair.2.nesting ≤ n := by
  induction items generalizing pairs with
  | nil =>
    cases h
    exact hp
  | cons item rest ih =>
    obtain ⟨first, others⟩ := List.forall_mem_cons.mp hi
    obtain ⟨⟨key, v⟩, hv, h⟩ := Outcome.bind_eq_ok.mp h
    refine ih (fun pair hpair => ?_) others h
    rcases mem_putPair hpair with e | hpair
    · rw [e]
      exact Nat.le_trans (nesting_le_of_asPair hv) first
    · exact hp pair hpair

/-- A text is no list of pairs, unless it is empty. -/
theorem readPairs_chars {pairs pairs' : List (Value × Value)} {cs : List Char}
    (h : readPairs pairs (cs.map fun c => str c.toString) = .ok pairs') : pairs' = pairs := by
  cases cs with
  | nil =>
    cases h
    rfl
  | cons c cs =>
    obtain ⟨pair, hp, -⟩ := Outcome.bind_eq_ok.mp h
    simp [asPair, items?] at hp

/-- What a value has under a key, when it is read as an object, is less deep than the value. -/
theorem nesting_lt_of_asEntries {v w : Value} {entries : Entries} {key : String}
    (h : v.asEntries = .ok entries) (hw : entries.get? key = some w) : w.nesting < v.nesting := by
  have ofPairs {pairs : List (Value × Value)}
      (he : entries = pairs.foldl (fun found pair => Entries.put pair.1.keyText pair.2 found) []) :
      ∃ pair ∈ pairs, pair.2 = w := by
    have given : entries = Entries.update [] (pairs.map fun pair => (pair.1.keyText, pair.2)) := by
      rw [he, Entries.update, List.foldl_map]
    rw [given] at hw
    rcases Entries.mem_of_get?_update hw with hw | hw
    · obtain ⟨pair, hp, e⟩ := List.mem_map.mp hw
      cases e
      exact ⟨pair, hp, rfl⟩
    · cases hw
  cases v with
  | obj es =>
    cases h
    exact Nat.lt_succ_of_le (nesting_le_of_mem_entries (Association.mem_of_lookup hw))
  | arr items =>
    obtain ⟨pairs, hp, h⟩ := Outcome.bind_eq_ok.mp h
    cases h
    obtain ⟨pair, hpair, rfl⟩ := ofPairs rfl
    refine Nat.lt_succ_of_le ?_
    have none : ∀ pair ∈ ([] : List (Value × Value)), pair.2.nesting ≤ nestingOfItems items :=
      fun pair hp => absurd hp List.not_mem_nil
    exact nesting_le_of_readPairs none (fun item => nesting_le_of_mem_items) hp pair hpair
  | str s =>
    obtain ⟨pairs, hp, h⟩ := Outcome.bind_eq_ok.mp h
    cases h
    obtain ⟨pair, hpair, -⟩ := ofPairs rfl
    rw [readPairs_chars hp] at hpair
    exact absurd hpair List.not_mem_nil
  | _ =>
    obtain ⟨pairs, hp, -⟩ := Outcome.bind_eq_ok.mp h
    cases hp

end GosuForge.Value
