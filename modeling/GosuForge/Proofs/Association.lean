import Mathlib.Data.List.Nodup

/-!
# Lists of keys with values

Keys stand in the order in which they were first given, each with the value that was given last.

* `Association.put`: a key gets a value, `Association.putAll`: many do, one after the other;
* `Association.lookup_putAll`, `Association.keys_putAll`: what is looked up then, and the order;
* `Association.putAll_again`: what is given a second time changes nothing.
-/

namespace GosuForge.Association

variable {κ α : Type} [DecidableEq κ]

/-- Gives a key its value: in place if the key is there, else at the end. -/
def put (key : κ) (v : α) : List (κ × α) → List (κ × α)
  | [] => [(key, v)]
  | (k, old) :: rest => if k = key then (k, v) :: rest else (k, old) :: put key v rest

/-- Gives keys their values, one after the other. -/
def putAll (later earlier : List (κ × α)) : List (κ × α) :=
  later.foldl (fun entries (key, v) => put key v entries) earlier

theorem putAll_cons (key : κ) (v : α) (rest earlier : List (κ × α)) :
    putAll ((key, v) :: rest) earlier = putAll rest (put key v earlier) := rfl

/-! ## Keys -/

theorem keys_put (key : κ) (v : α) (entries : List (κ × α)) :
    (put key v entries).map Prod.fst =
      if key ∈ entries.map Prod.fst then entries.map Prod.fst
      else entries.map Prod.fst ++ [key] := by
  induction entries with
  | nil => simp [put]
  | cons entry rest ih =>
    obtain ⟨k, old⟩ := entry
    rw [put]
    by_cases hk : k = key
    · simp [hk]
    · rw [if_neg hk, List.map_cons, ih, List.map_cons]
      by_cases hr : key ∈ rest.map Prod.fst
      · simp only [hr, if_true, List.mem_cons_of_mem]
      · have : key ∉ k :: rest.map Prod.fst := by simp [hr, Ne.symm hk]
        rw [if_neg hr, if_neg this]
        rfl

theorem mem_keys_put {key k : κ} {v : α} {entries : List (κ × α)} :
    k ∈ (put key v entries).map Prod.fst ↔ k = key ∨ k ∈ entries.map Prod.fst := by
  rw [keys_put]
  by_cases h : key ∈ entries.map Prod.fst
  · rw [if_pos h]
    constructor
    · exact .inr
    · rintro (rfl | hk)
      · exact h
      · exact hk
  · rw [if_neg h, List.mem_append, List.mem_singleton, or_comm]

theorem nodup_keys_put {entries : List (κ × α)} (h : (entries.map Prod.fst).Nodup) (key : κ)
    (v : α) : ((put key v entries).map Prod.fst).Nodup := by
  rw [keys_put]
  split
  · exact h
  · rename_i fresh
    rw [← List.concat_eq_append]
    exact List.Nodup.concat fresh h

theorem mem_keys_putAll {k : κ} {later earlier : List (κ × α)} :
    k ∈ (putAll later earlier).map Prod.fst ↔
      k ∈ later.map Prod.fst ∨ k ∈ earlier.map Prod.fst := by
  induction later generalizing earlier with
  | nil => simp [putAll]
  | cons entry rest ih =>
    obtain ⟨key, v⟩ := entry
    rw [putAll_cons, ih, mem_keys_put, List.map_cons, List.mem_cons]
    tauto

theorem nodup_keys_putAll {earlier : List (κ × α)} (h : (earlier.map Prod.fst).Nodup)
    (later : List (κ × α)) : ((putAll later earlier).map Prod.fst).Nodup := by
  induction later generalizing earlier with
  | nil => exact h
  | cons entry rest ih =>
    obtain ⟨key, v⟩ := entry
    exact ih (nodup_keys_put h key v)

/-! ## Looking up -/

variable [BEq κ] [LawfulBEq κ]

theorem lookup_cons (key : κ) (v : α) (entries : List (κ × α)) (k : κ) :
    ((key, v) :: entries).lookup k = if k = key then some v else entries.lookup k := by
  rw [List.lookup_cons]
  by_cases h : k = key
  · simp [h]
  · simp [h, beq_eq_false_iff_ne.mpr h]

omit [DecidableEq κ] in
theorem lookup_eq_none {entries : List (κ × α)} {k : κ} (h : k ∉ entries.map Prod.fst) :
    entries.lookup k = none := by
  refine List.lookup_eq_none_iff.mpr fun entry he => ?_
  have : k ≠ entry.1 := fun e => h (e ▸ List.mem_map_of_mem he)
  simpa using this

omit [DecidableEq κ] in
theorem isSome_lookup {entries : List (κ × α)} {k : κ} :
    (entries.lookup k).isSome = true ↔ k ∈ entries.map Prod.fst := by
  rw [List.lookup_isSome_iff, List.mem_map]
  constructor
  · rintro ⟨entry, he, hk⟩
    exact ⟨entry, he, (eq_of_beq hk).symm⟩
  · rintro ⟨entry, he, rfl⟩
    exact ⟨entry, he, beq_self_eq_true _⟩

omit [DecidableEq κ] in
theorem mem_of_lookup {entries : List (κ × α)} {k : κ} {v : α} (h : entries.lookup k = some v) :
    (k, v) ∈ entries := by
  obtain ⟨before, after, rfl, -⟩ := List.lookup_eq_some_iff.mp h
  exact List.mem_append_right before List.mem_cons_self

omit [DecidableEq κ] in
/-- Where no key is there twice, what is there is looked up. -/
theorem lookup_of_mem {entries : List (κ × α)} (nodup : (entries.map Prod.fst).Nodup) {k : κ}
    {v : α} (h : (k, v) ∈ entries) : entries.lookup k = some v := by
  classical
  induction entries with
  | nil => exact absurd h List.not_mem_nil
  | cons entry rest ih =>
    obtain ⟨key, w⟩ := entry
    obtain ⟨fresh, nodup⟩ := List.nodup_cons.mp nodup
    rw [lookup_cons]
    rcases List.mem_cons.mp h with e | given
    · cases e
      rw [if_pos rfl]
    · have other : k ≠ key := by
        rintro rfl
        exact fresh (List.mem_map.mpr ⟨(k, v), given, rfl⟩)
      rw [if_neg other, ih nodup given]

theorem lookup_put (key : κ) (v : α) (entries : List (κ × α)) (k : κ) :
    (put key v entries).lookup k = if k = key then some v else entries.lookup k := by
  induction entries with
  | nil => exact lookup_cons key v [] k
  | cons entry rest ih =>
    obtain ⟨q, old⟩ := entry
    rw [put]
    by_cases hq : q = key
    · subst hq
      by_cases h : k = q <;> simp [lookup_cons, h]
    · rw [if_neg hq, lookup_cons, lookup_cons, ih]
      by_cases h : k = q
      · subst h
        simp [hq]
      · simp [h]

/-- The value that was given last counts. -/
theorem lookup_putAll (later earlier : List (κ × α)) (k : κ) :
    (putAll later earlier).lookup k = (later.reverse.lookup k).or (earlier.lookup k) := by
  induction later generalizing earlier with
  | nil => rfl
  | cons entry rest ih =>
    obtain ⟨key, v⟩ := entry
    have last : List.lookup k [(key, v)] = if k = key then some v else none :=
      lookup_cons key v [] k
    rw [putAll_cons, ih, lookup_put, List.reverse_cons, List.lookup_append, last]
    by_cases h : k = key
    · simp [h]
    · simp [h]

/-- A key has the value that was given last, or the one that it had. -/
theorem lookup_putAll_cases (later earlier : List (κ × α)) (k : κ) :
    k ∉ later.map Prod.fst ∧ (putAll later earlier).lookup k = earlier.lookup k ∨
      ∃ before v after, later = before ++ (k, v) :: after ∧
        k ∉ after.map Prod.fst ∧ (putAll later earlier).lookup k = some v := by
  induction later generalizing earlier with
  | nil => exact Or.inl ⟨by simp, rfl⟩
  | cons entry rest ih =>
    obtain ⟨key, v⟩ := entry
    rw [putAll_cons]
    rcases ih (put key v earlier) with ⟨hr, h⟩ | ⟨before, last, after, rfl, hl, h⟩
    · rw [h, lookup_put]
      by_cases hk : k = key
      · subst hk
        exact Or.inr ⟨[], v, rest, rfl, hr, by simp⟩
      · exact Or.inl ⟨by simpa [hk] using hr, by simp [hk]⟩
    · exact Or.inr ⟨(key, v) :: before, last, after, rfl, hl, h⟩

theorem lookup_putAll_of_nodup {later : List (κ × α)} (nodup : (later.map Prod.fst).Nodup)
    (earlier : List (κ × α)) (k : κ) :
    (putAll later earlier).lookup k = (later.lookup k).or (earlier.lookup k) := by
  rcases lookup_putAll_cases later earlier k with ⟨absent, h⟩ | ⟨before, v, after, hl, -, h⟩
  · rw [h, lookup_eq_none absent, Option.none_or]
  · have given : (k, v) ∈ later := hl ▸ List.mem_append_right before List.mem_cons_self
    rw [h, lookup_of_mem nodup given, Option.some_or]

/-- New keys stand behind those that were there, in the order in which they were first given. -/
theorem keys_putAll (later earlier : List (κ × α)) :
    (putAll later earlier).map Prod.fst = earlier.map Prod.fst ++
      ((later.map Prod.fst).filter fun k => !(earlier.map Prod.fst).contains k).eraseDups := by
  induction later generalizing earlier with
  | nil => simp [putAll]
  | cons entry rest ih =>
    obtain ⟨key, v⟩ := entry
    have ih := ih (put key v earlier)
    rw [putAll_cons, ih, keys_put]
    by_cases h : key ∈ earlier.map Prod.fst
    · rw [if_pos h, List.map_cons, List.filter_cons_of_neg (by simpa using h)]
    · have hfilter :
          (rest.map Prod.fst).filter (fun k => !(earlier.map Prod.fst ++ [key]).contains k) =
            ((rest.map Prod.fst).filter fun k => !(earlier.map Prod.fst).contains k).filter
              fun k => !k == key := by
        rw [List.filter_filter]
        refine List.filter_congr fun k _ => ?_
        rw [List.contains_append, Bool.not_or, Bool.and_comm, List.contains_cons]
        simp
      rw [if_neg h, hfilter, List.map_cons, List.filter_cons_of_pos (by simpa using h),
        List.eraseDups_cons, List.append_assoc]
      rfl

omit [DecidableEq κ] in
/-- Entries are known by their keys, in order, and by what is looked up under each. -/
theorem ext_lookup {entries entries' : List (κ × α)}
    (keys : entries.map Prod.fst = entries'.map Prod.fst) (nodup : (entries.map Prod.fst).Nodup)
    (h : ∀ k, entries.lookup k = entries'.lookup k) : entries = entries' := by
  classical
  induction entries generalizing entries' with
  | nil => exact (List.map_eq_nil_iff.mp keys.symm).symm
  | cons entry rest ih =>
    obtain ⟨k, v⟩ := entry
    cases entries' with
    | nil => cases keys
    | cons entry' rest' =>
      obtain ⟨k', v'⟩ := entry'
      obtain ⟨(rfl : k = k'), tails⟩ := List.cons.inj keys
      obtain ⟨fresh, nodup⟩ := List.nodup_cons.mp nodup
      have first : some v = some v' := by
        have := h k
        rwa [List.lookup_cons_self, List.lookup_cons_self] at this
      have rest_eq : rest = rest' := by
        refine ih tails nodup fun q => ?_
        by_cases hq : q = k
        · subst hq
          rw [lookup_eq_none fresh, lookup_eq_none (tails ▸ fresh)]
        · have := h q
          rwa [lookup_cons, lookup_cons, if_neg hq, if_neg hq] at this
      cases first
      rw [rest_eq]

/-- What is given a second time, in the same order, changes nothing. -/
theorem putAll_again {later earlier : List (κ × α)}
    (nodup : ((putAll later earlier).map Prod.fst).Nodup) :
    putAll later (putAll later earlier) = putAll later earlier := by
  have keys : (putAll later (putAll later earlier)).map Prod.fst =
      (putAll later earlier).map Prod.fst := by
    rw [keys_putAll later (putAll later earlier), List.filter_eq_nil_iff.mpr, List.eraseDups_nil,
      List.append_nil]
    intro k hk
    simpa using mem_keys_putAll.mpr (.inl hk)
  refine ext_lookup keys (keys ▸ nodup) fun k => ?_
  rw [lookup_putAll, lookup_putAll, ← Option.or_assoc, Option.or_self]

end GosuForge.Association
