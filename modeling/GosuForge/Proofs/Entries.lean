import GosuForge.Proofs.Association
import GosuForge.Value.Basic

/-!
# Named values

What is looked up among entries when some of them are put on top of others, or are left out.
-/

namespace GosuForge.Entries

/-- The keys in their order. -/
def keys (entries : Entries) : List String := entries.map Prod.fst

theorem put_eq (key : String) (v : Value) (entries : Entries) :
    entries.put key v = Association.put key v entries := by
  induction entries with
  | nil => rfl
  | cons entry rest ih => rw [put, Association.put, ih]

theorem update_eq (earlier later : Entries) :
    earlier.update later = Association.putAll later earlier := by
  rw [update, Association.putAll]
  simp only [put_eq]

theorem mem_keys {entries : Entries} {k : String} :
    k ∈ entries.keys ↔ ∃ v, entries.get? k = some v := by
  rw [← Option.isSome_iff_exists]
  exact Association.isSome_lookup.symm

theorem get?_cons (key : String) (v : Value) (entries : Entries) (k : String) :
    Entries.get? ((key, v) :: entries) k = if k = key then some v else entries.get? k :=
  Association.lookup_cons key v entries k

theorem get?_eq_none {entries : Entries} {k : String} (h : k ∉ entries.keys) :
    entries.get? k = none := Association.lookup_eq_none h

theorem get?_put (key : String) (v : Value) (entries : Entries) (k : String) :
    (entries.put key v).get? k = if k = key then some v else entries.get? k := by
  rw [put_eq]
  exact Association.lookup_put key v entries k

theorem mem_keys_put {key k : String} {v : Value} {entries : Entries} :
    k ∈ (entries.put key v).keys ↔ k = key ∨ k ∈ entries.keys := by
  rw [put_eq]
  exact Association.mem_keys_put

theorem nodup_keys_put {entries : Entries} (h : entries.keys.Nodup) (key : String) (v : Value) :
    (entries.put key v).keys.Nodup := by
  rw [put_eq]
  exact Association.nodup_keys_put h key v

/-- The later entries count, and those before them where there is no later one. -/
theorem get?_update {later : Entries} (nodup : later.keys.Nodup) (earlier : Entries) (k : String) :
    (earlier.update later).get? k = (later.get? k).or (earlier.get? k) := by
  rw [update_eq]
  exact Association.lookup_putAll_of_nodup nodup earlier k

theorem mem_of_get?_update {earlier later : Entries} {k : String} {v : Value}
    (h : (earlier.update later).get? k = some v) : (k, v) ∈ later ∨ earlier.get? k = some v := by
  rw [update_eq] at h
  rcases Association.lookup_putAll_cases later earlier k with
    ⟨-, e⟩ | ⟨before, w, after, hl, -, e⟩
  · exact .inr (e.symm.trans h)
  · cases e.symm.trans h
    exact .inl (hl ▸ List.mem_append_right before List.mem_cons_self)

theorem mem_keys_update {earlier later : Entries} {k : String} :
    k ∈ (earlier.update later).keys ↔ k ∈ later.keys ∨ k ∈ earlier.keys := by
  rw [update_eq]
  exact Association.mem_keys_putAll

theorem nodup_keys_update {earlier : Entries} (h : earlier.keys.Nodup) (later : Entries) :
    (earlier.update later).keys.Nodup := by
  rw [update_eq]
  exact Association.nodup_keys_putAll h later

/-! ## Entries with keys of a kind -/

variable {p : String → Bool}

theorem get?_filter (p : String → Bool) (entries : Entries) (k : String) :
    Entries.get? (entries.filter fun entry => p entry.1) k =
      if p k then entries.get? k else none := by
  induction entries with
  | nil => simp [get?]
  | cons entry rest ih =>
    obtain ⟨key, v⟩ := entry
    rw [List.filter_cons, get?_cons]
    by_cases hk : k = key
    · subst hk
      by_cases hp : p k = true
      · rw [if_pos hp, if_pos hp, if_pos rfl, get?_cons, if_pos rfl]
      · rw [if_neg hp, if_neg hp, ih, if_neg hp]
    · rw [if_neg hk]
      split
      · rw [get?_cons, if_neg hk, ih]
      · exact ih

theorem mem_keys_filter {entries : Entries} {k : String} :
    k ∈ Entries.keys (entries.filter fun entry => p entry.1) ↔ p k = true ∧ k ∈ entries.keys := by
  rw [mem_keys, mem_keys, get?_filter]
  by_cases h : p k = true <;> simp [h]

theorem nodup_keys_filter {entries : Entries} (h : entries.keys.Nodup) (p : String → Bool) :
    (Entries.keys (entries.filter fun entry => p entry.1)).Nodup :=
  h.sublist (List.filter_sublist.map Prod.fst)

end GosuForge.Entries
