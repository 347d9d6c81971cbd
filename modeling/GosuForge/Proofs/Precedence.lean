import GosuForge.Proofs.Reload
import GosuForge.Proofs.Spelling

/-!
# Which layer a custom setting comes from

A layer of settings can give a custom setting in two places: beside the settings by name, or among the
custom settings that it gives as such.

* `Settings.nested`, `Settings.given`: what a layer gives among its custom settings, and in either place;
* `Settings.combine_custom`: the order in which the places of two layers count for a custom setting;
* `Settings.overrides_win_iff`: overrides win against a file unless the file gives the setting beside
  the settings by name and the overrides give it among the custom ones.
-/

namespace GosuForge.Settings

open SettingsField

/-- An object with settings: no key is there twice, and custom settings that are given as such are an
object of that kind, too. -/
structure IsLayer (entries : Entries) : Prop where
  distinct : entries.keys.Nodup
  custom : ∀ v, entries.get? "custom" = some v →
    ∃ nested : Entries, v = .obj nested ∧ nested.keys.Nodup

/-- The custom settings that a layer gives as such. -/
def nested (entries : Entries) : Entries :=
  match entries.get? "custom" with
  | some (.obj nested) => nested
  | _ => []

/-- What a layer gives for a custom setting, in whichever place. -/
def given (entries : Entries) (key : String) : Option Value :=
  (entries.get? key).or ((nested entries).get? key)

/-- A layer gives a custom setting in one place only, if at all. -/
def GivesOnce (entries : Entries) (key : String) : Prop :=
  entries.get? key = none ∨ (nested entries).get? key = none

namespace IsLayer

variable {entries : Entries}

theorem nodup_nested (h : IsLayer entries) : (nested entries).keys.Nodup := by
  rw [nested]
  split
  · rename_i e
    obtain ⟨_, same, distinct⟩ := h.custom _ e
    cases same
    exact distinct
  · exact List.nodup_nil

/-- The custom settings that a layer gives as such are put on top of those below it. -/
theorem custom_merged (h : IsLayer entries) {below layer merged : Entries}
    (spec : Merged below layer entries merged) (hl : layer.get? "custom" = some (.obj below)) :
    merged.get? "custom" = some (.obj (below.update (nested entries))) := by
  rw [spec.custom, nested]
  cases e : entries.get? "custom" with
  | none => exact hl
  | some v =>
    obtain ⟨_, rfl, -⟩ := h.custom v e
    rfl

end IsLayer

/-! ## Keys that are no settings by name -/

/-- A key that spells no setting is read as it stands, and no other key is read as it. -/
theorem eq_canonical_iff {k key : String} (unnamed : k ∉ all.map name) (unspelled : k ∉ spelled) :
    k = canonical key ↔ k = key := by
  rcases canonical_cases key with ⟨spelt, f, -, e⟩ | ⟨-, e⟩
  · rw [e]
    constructor
    · rintro rfl
      exact absurd (name_mem f) unnamed
    · rintro rfl
      exact absurd spelt unspelled
  · rw [e]

/-- The upper layer counts for a key that spells no setting, and then the lower one. -/
theorem get?_merge_of_unnamed {entries layer merged : Entries} (distinct : entries.keys.Nodup)
    (h : merge layer entries = .ok merged) {k : String} (unnamed : k ∉ all.map name)
    (unspelled : k ∉ spelled) : merged.get? k = (entries.get? k).or (layer.get? k) := by
  have other := ne_custom_of_unnamed unnamed
  have alone : ∀ key ∈ entries.keys, canonical key = k ↔ key = k := fun key _ => by
    rw [eq_comm, eq_canonical_iff unnamed unspelled, eq_comm]
  rw [get?_merge h other, lastFor_eq_get? distinct alone]

/-! ## Two layers on top of the defaults -/

theorem overrideEntries_obj (entries : Entries) : overrideEntries (.obj entries) = .ok entries := by
  cases entries <;> rfl

/-- What stands beside the settings by name counts before all that is given as custom settings, in
whichever layer; only then do the overrides count before the file. -/
theorem combine_custom {file overrides : Entries} (hf : IsLayer file) (ho : IsLayer overrides) :
    ∃ s, ∃ custom : Entries, combine (.str "gosu") (.obj overrides) file = .ok s ∧
      s.custom = .obj custom ∧ ∀ key, key ∉ all.map name → key ∉ spelled →
        custom.get? key = (overrides.get? key).or ((file.get? key).or
          (((nested overrides).get? key).or (((nested file).get? key).or (gosuCustom.get? key)))) := by
  have base : gosuBase.get? "custom" = some (.obj gosuCustom) := rfl
  obtain ⟨lower, hlower, specLower⟩ := merge_eq_ok hf.distinct base
  have customLower := hf.custom_merged specLower base
  obtain ⟨upper, hupper, specUpper⟩ := merge_eq_ok ho.distinct customLower
  have customUpper := ho.custom_merged specUpper customLower
  have distinct : upper.keys.Nodup := specUpper.nodup (specLower.nodup (by decide))
  obtain ⟨s, hs, custom, -⟩ := resolve_of_object distinct customUpper
  refine ⟨s, _, ?_, custom, fun key unnamed unspelled => ?_⟩
  · rw [combine, base_gosu, overrideEntries_obj]
    show merge gosuBase file >>= _ = _
    rw [hlower]
    show merge lower overrides >>= _ = _
    rw [hupper]
    exact hs
  · have none : gosuBase.get? key = none :=
      Entries.get?_eq_none fun h => unnamed (gosuBase_named key h)
    rw [Entries.get?_update (nodup_keys_further distinct), get?_further unnamed,
      get?_merge_of_unnamed ho.distinct hupper unnamed unspelled,
      get?_merge_of_unnamed hf.distinct hlower unnamed unspelled, none,
      Entries.get?_update ho.nodup_nested, Entries.get?_update hf.nodup_nested, Option.or_none,
      Option.or_assoc]

theorem forLanguage_of_load {overrides : Value} {path : Path} {disk : Disk} {file : Entries}
    (loaded : load path disk = .ok file) :
    forLanguage (.str "gosu") overrides (some path) disk =
      combine (.str "gosu") overrides file := by
  rw [forLanguage, base_gosu, loaded]
  rfl

/-- **Overrides win against a file**, however each of them spells a custom setting, just unless the file
gives it beside the settings by name and the overrides give another value among the custom ones. The
file wins then. -/
theorem overrides_win_iff {file overrides : Entries} (hf : IsLayer file) (ho : IsLayer overrides)
    {key : String} (unnamed : key ∉ all.map name) (unspelled : key ∉ spelled)
    (fileOnce : GivesOnce file key) (overridesOnce : GivesOnce overrides key) {path : Path}
    {disk : Disk} (loaded : load path disk = .ok file) :
    ∃ s, ∃ custom : Entries,
      forLanguage (.str "gosu") (.obj overrides) (some path) disk = .ok s ∧ s.custom = .obj custom ∧
      (custom.get? key = (given overrides key).or ((given file key).or (gosuCustom.get? key)) ↔
        ∀ v w, file.get? key = some v → (nested overrides).get? key = some w → v = w) := by
  obtain ⟨s, custom, hs, hc, lookup⟩ := combine_custom hf ho
  refine ⟨s, custom, (forLanguage_of_load loaded).trans hs, hc, ?_⟩
  rw [lookup key unnamed unspelled, given, given]
  -- Each layer gives the setting beside the others, among the custom ones, or not at all.
  rcases overridesOnce with beside | among <;> rcases fileOnce with beside' | among'
  · simp [beside, beside']
  · rw [beside, among']
    cases hv : file.get? key <;> cases hw : (nested overrides).get? key <;> simp [eq_comm]
  · simp [among, beside']
  · simp [among, among']

/-! ## A file and overrides that give one setting -/

/-- A disk with a settings file. -/
def configured (text : String) : Disk := Disk.empty.set ["work", "gosu.json"] (.file text)

def settingsPath : Path := .ofString "gosu.json"

theorem load_configured {text : String} {entries : Entries}
    (parsed : Json.readChars (Text.unifyEndings text.toList) = .ok (.obj entries)) :
    load settingsPath (configured text) = .ok entries := by
  have named : settingsPath.name = "gosu" ++ ".json" := by decide +kernel
  have written : Disk.empty.writeText settingsPath text = .ok (configured text) :=
    Disk.writeText_eq_ok.mpr ⟨["work", "gosu.json"], none, rfl, nofun, rfl⟩
  have read := Disk.readText_of_writeText written
  rw [load_eq named (by decide +kernel) read, if_neg (by decide)]
  intro malformed
  rw [Json.ofFile, Json.read, String.toList_ofList, parsed]

/-- The file gives the setting among the custom ones, the overrides give it beside the others. -/
def nestedText : String := "\x7b\"custom\": \x7b\"stub_statement\": \"F\"\x7d, \"uses\": []\x7d"

def nestedFile : Entries :=
  [("custom", .obj [("stub_statement", .str "F")]), ("uses", .arr [])]

def plainOverrides : Entries := [("indentWidth", .int 2), ("stub_statement", .str "O")]

theorem overrides_win_nestedFile :
    IsLayer nestedFile ∧ IsLayer plainOverrides ∧
    "stub_statement" ∉ all.map name ∧ "stub_statement" ∉ spelled ∧
    GivesOnce nestedFile "stub_statement" ∧ GivesOnce plainOverrides "stub_statement" ∧
    load settingsPath (configured nestedText) = .ok nestedFile ∧
    ∃ s, ∃ custom : Entries,
      forLanguage (.str "gosu") (.obj plainOverrides) (some settingsPath) (configured nestedText) =
        .ok s ∧ s.custom = .obj custom ∧ custom.get? "stub_statement" = some (.str "O") := by
  have file : IsLayer nestedFile := by
    refine ⟨by decide, fun v hv => ?_⟩
    cases hv
    exact ⟨_, rfl, by decide⟩
  have overrides : IsLayer plainOverrides := ⟨by decide, nofun⟩
  have unnamed : "stub_statement" ∉ all.map name := by decide
  have unspelled : "stub_statement" ∉ spelled := by decide
  have fileOnce : GivesOnce nestedFile "stub_statement" := .inl rfl
  have overridesOnce : GivesOnce plainOverrides "stub_statement" := .inr rfl
  have loaded : load settingsPath (configured nestedText) = .ok nestedFile :=
    load_configured (by decide +kernel)
  obtain ⟨s, custom, hs, hc, wins⟩ :=
    overrides_win_iff file overrides unnamed unspelled fileOnce overridesOnce loaded
  exact ⟨file, overrides, unnamed, unspelled, fileOnce, overridesOnce, loaded, s, custom, hs, hc,
    wins.mpr fun v w hv => nomatch hv⟩

/-- The other way round: the file gives the setting beside the others. -/
def plainFile : Entries := [("stub_statement", .str "F")]

def nestedOverrides : Entries := [("custom", .obj [("stub_statement", .str "O")])]

/-- What the overrides give among the custom settings does not count against what the file gives beside
the settings by name. -/
theorem nested_override_loses :
    IsLayer plainFile ∧ IsLayer nestedOverrides ∧
    "stub_statement" ∉ all.map name ∧ "stub_statement" ∉ spelled ∧
    GivesOnce plainFile "stub_statement" ∧ GivesOnce nestedOverrides "stub_statement" ∧
    given nestedOverrides "stub_statement" = some (.str "O") ∧
    ∃ text, load settingsPath (configured text) = .ok plainFile ∧
      ∃ s, ∃ custom : Entries,
        forLanguage (.str "gosu") (.obj nestedOverrides) (some settingsPath) (configured text) =
          .ok s ∧ s.custom = .obj custom ∧ custom.get? "stub_statement" = some (.str "F") := by
  have file : IsLayer plainFile := ⟨by decide, nofun⟩
  have overrides : IsLayer nestedOverrides := by
    refine ⟨by decide, fun v hv => ?_⟩
    cases hv
    exact ⟨_, rfl, by decide⟩
  have unnamed : "stub_statement" ∉ all.map name := by decide
  have unspelled : "stub_statement" ∉ spelled := by decide
  have loaded : load settingsPath (configured "\x7b\"stub_statement\": \"F\"\x7d") = .ok plainFile :=
    load_configured (by decide +kernel)
  obtain ⟨s, custom, hs, hc, lookup⟩ := combine_custom file overrides
  refine ⟨file, overrides, unnamed, unspelled, .inr rfl, .inl rfl, rfl, _, loaded, s, custom,
    (forLanguage_of_load loaded).trans hs, hc, ?_⟩
  rw [lookup _ unnamed unspelled]
  rfl

end GosuForge.Settings
