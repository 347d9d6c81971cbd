import GosuForge.Proofs.Layers

/-!
# Settings under several spellings

A setting may be given several times, under its name and under its further spellings. In a layer it has
the value that was given last.

* `Settings.lastFor`, `Settings.lastGiven`: what entries give last for a name, or for any spelling of it;
* `Settings.get?_merge`: what is found in a layer after entries are put on top of it;
* `Settings.merge_append`: entries in two parts;
* `Settings.merge_of_absent`: entries without custom settings can always be put on top.
-/

namespace GosuForge.Settings

open SettingsField

/-- The value of the last entry whose key is read as `name`. -/
def lastFor (entries : Entries) (name : String) : Option Value :=
  (entries.reverse.find? fun entry => canonical entry.1 = name).map Prod.snd

/-- The value of the last entry whose key spells the setting that `key` spells. -/
def lastGiven (entries : Entries) (key : String) : Option Value := lastFor entries (canonical key)

theorem lastFor_append (earlier later : Entries) (name : String) :
    lastFor (earlier ++ later) name = (lastFor later name).or (lastFor earlier name) := by
  rw [lastFor, List.reverse_append, List.find?_append, lastFor, lastFor]
  cases later.reverse.find? fun entry => canonical entry.1 = name <;> rfl

theorem lastFor_singleton (key : String) (v : Value) (name : String) :
    lastFor [(key, v)] name = if canonical key = name then some v else none := by
  by_cases h : canonical key = name <;> simp [lastFor, h]

theorem lastFor_cons (key : String) (v : Value) (entries : Entries) (name : String) :
    lastFor ((key, v) :: entries) name =
      (lastFor entries name).or (if canonical key = name then some v else none) := by
  rw [← lastFor_singleton]
  exact lastFor_append [(key, v)] entries name

/-- A name that only one key is read as is given as it is looked up. -/
theorem lastFor_eq_get? {entries : Entries} (distinct : entries.keys.Nodup) {name : String}
    (alone : ∀ key ∈ entries.keys, canonical key = name ↔ key = name) :
    lastFor entries name = entries.get? name := by
  induction entries with
  | nil => rfl
  | cons entry rest ih =>
    obtain ⟨key, v⟩ := entry
    obtain ⟨first, others⟩ := List.forall_mem_cons.mp alone
    obtain ⟨fresh, distinct⟩ := List.nodup_cons.mp distinct
    rw [lastFor_cons, ih distinct others, Entries.get?_cons]
    by_cases h : key = name
    · subst h
      rw [if_pos (first.mpr rfl), if_pos rfl, Entries.get?_eq_none fresh]
      rfl
    · rw [if_neg (mt first.mp h), if_neg (Ne.symm h), Option.or_none]

/-! ## Entries on top of a layer -/

theorem mergeEntry_eq_ok {layer merged : Entries} {key : String} {v : Value}
    (h : mergeEntry layer key v = .ok merged) :
    ∃ w, merged = layer.put (canonical key) w ∧ (key ≠ "custom" → w = v) := by
  by_cases hk : key = "custom"
  · simp only [mergeEntry] at h
    split at h
    · split at h
      · cases h
        exact ⟨_, by rw [canonical_eq_custom.mpr hk], fun other => absurd hk other⟩
      · cases h
    · cases h
      exact ⟨_, rfl, fun other => absurd hk other⟩
  · rw [mergeEntry_of_ne hk] at h
    cases h
    exact ⟨v, rfl, fun _ => rfl⟩

/-- What was given last is found, or what was there. Only the custom settings are united. -/
theorem get?_merge {entries layer merged : Entries} (h : merge layer entries = .ok merged)
    {name : String} (other : name ≠ "custom") :
    merged.get? name = (lastFor entries name).or (layer.get? name) := by
  induction entries generalizing layer with
  | nil =>
    cases h
    rfl
  | cons entry rest ih =>
    obtain ⟨key, v⟩ := entry
    obtain ⟨next, hnext, h⟩ := Outcome.bind_eq_ok.mp h
    obtain ⟨w, rfl, same⟩ := mergeEntry_eq_ok hnext
    rw [ih h, Entries.get?_put, lastFor_cons, Option.or_assoc]
    by_cases hk : canonical key = name
    · have plain : key ≠ "custom" := fun e => other (hk ▸ canonical_eq_custom.mpr e)
      rw [if_pos hk.symm, if_pos hk, same plain]
      rfl
    · rw [if_neg (Ne.symm hk), if_neg hk, Option.none_or]

theorem nodup_merge {entries layer merged : Entries} (h : merge layer entries = .ok merged)
    (distinct : layer.keys.Nodup) : merged.keys.Nodup := by
  induction entries generalizing layer with
  | nil =>
    cases h
    exact distinct
  | cons entry rest ih =>
    obtain ⟨key, v⟩ := entry
    obtain ⟨next, hnext, h⟩ := Outcome.bind_eq_ok.mp h
    obtain ⟨w, rfl, -⟩ := mergeEntry_eq_ok hnext
    exact ih h (Entries.nodup_keys_put distinct _ _)

theorem merge_append (layer earlier later : Entries) :
    merge layer (earlier ++ later) = merge layer earlier >>= fun layer => merge layer later := by
  induction earlier generalizing layer with
  | nil => rfl
  | cons entry rest ih =>
    obtain ⟨key, v⟩ := entry
    show mergeEntry layer key v >>= (fun next => merge next (rest ++ later)) =
      (mergeEntry layer key v >>= fun next => merge next rest) >>= _
    simp only [ih]
    cases mergeEntry layer key v <;> rfl

theorem merge_of_absent {entries : Entries} (absent : "custom" ∉ entries.keys) (layer : Entries) :
    ∃ merged, merge layer entries = .ok merged ∧ merged.get? "custom" = layer.get? "custom" := by
  induction entries generalizing layer with
  | nil => exact ⟨layer, rfl, rfl⟩
  | cons entry rest ih =>
    obtain ⟨key, v⟩ := entry
    obtain ⟨first, others⟩ := not_or.mp (mt List.mem_cons.mpr absent)
    have apart : "custom" ≠ canonical key := fun e => first (canonical_eq_custom.mp e.symm).symm
    obtain ⟨merged, hm, kept⟩ := ih others (layer.put (canonical key) v)
    refine ⟨merged, ?_, ?_⟩
    · rw [merge, mergeEntry_of_ne (Ne.symm first)]
      exact hm
    · rw [kept, Entries.get?_put, if_neg apart]

end GosuForge.Settings
