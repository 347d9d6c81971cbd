import GosuForge.Proofs.Precedence

/-!
# Settings read back

What a file and overrides give for a setting is what is found when the setting is looked up, under
whichever spelling, and no other setting changes.

* `Settings.entriesOf`: what a settings file gives, if one is named;
* `Settings.combine_layers`: the two layers are put on top of the defaults as one;
* `Settings.getOption_of_resolve`: looking up a setting is looking into the layer;
* `Settings.getOption_readBack`: the entry that was given last counts, else the default.
-/

namespace GosuForge.Settings

open SettingsField

/-- The entries of the file, if one is named. -/
def entriesOf (file : Option Path) (disk : Disk) : Except Fault Entries :=
  match file with
  | none => .ok []
  | some path => load path disk

/-- The language is looked at before the file is read. -/
theorem forLanguage_eq (language overrides : Value) (file : Option Path) (disk : Disk) :
    forLanguage language overrides file disk =
      base language >>= fun _ => entriesOf file disk >>= combine language overrides := by
  cases file with
  | some path => rfl
  | none =>
    show combine language overrides [] = base language >>= fun _ => combine language overrides []
    rw [combine]
    cases base language <;> rfl

theorem combine_layers (file overrides : Entries) :
    combine (.str "gosu") (.obj overrides) file = merge gosuBase (file ++ overrides) >>= resolve := by
  rw [combine, base_gosu, overrideEntries_obj, merge_append]
  show merge gosuBase file >>= _ = _
  cases merge gosuBase file <;> rfl

/-! ## Looking into a layer -/

/-- What is found for a setting that a layer with the custom settings `custom` does not give. -/
def unset (custom : Entries) (key : String) (fallback : Value) : Value :=
  match ofName? (canonical key) with
  | some f => default.get f
  | none => custom.getD (canonical key) fallback

/-- A key that spells no setting is looked up among the custom ones, where everything in the layer
that is no setting by name has gone. -/
theorem getOption_of_resolve {layer custom : Entries} (distinct : layer.keys.Nodup)
    (h : layer.get? "custom" = some (.obj custom)) :
    ∃ s, resolve layer = .ok s ∧ ∀ key, key ≠ "custom" → ∀ fallback,
      s.getOption (.str key) fallback =
        .ok ((layer.get? (canonical key)).getD (unset custom key fallback)) := by
  obtain ⟨s, hs, hc, fields⟩ := resolve_of_object distinct h
  refine ⟨s, hs, fun key hk fallback => ?_⟩
  have other : canonical key ≠ "custom" := mt canonical_eq_custom.mp hk
  simp only [getOption, unset]
  cases e : ofName? (canonical key) with
  | some f =>
    obtain e := name_of_ofName? e
    have plain : f ≠ .custom := by
      rintro rfl
      exact other e.symm
    dsimp only
    rw [fields f plain, e]
  | none =>
    have unnamed : canonical key ∉ all.map name := fun named => by
      simpa [e] using isSome_ofName?.mpr named
    rw [customEntries, hc]
    show Except.ok ((Entries.get? _ _).getD fallback) = _
    rw [Entries.get?_update (nodup_keys_further distinct), get?_further unnamed, Entries.getD]
    cases layer.get? (canonical key) <;> rfl

/-- What is found for a setting that is given nowhere. -/
def standard (key : String) (fallback : Value) : Value :=
  (gosuBase.get? (canonical key)).getD (unset gosuCustom key fallback)

theorem getOption_of_combine {file overrides : Entries} (hf : "custom" ∉ file.keys)
    (ho : "custom" ∉ overrides.keys) :
    ∃ s, combine (.str "gosu") (.obj overrides) file = .ok s ∧ ∀ key, key ≠ "custom" →
      ∀ fallback, s.getOption (.str key) fallback =
        .ok ((lastGiven (file ++ overrides) key).getD (standard key fallback)) := by
  have absent : "custom" ∉ Entries.keys (file ++ overrides) := by
    rw [Entries.keys, List.map_append, List.mem_append, not_or]
    exact ⟨hf, ho⟩
  obtain ⟨layer, merged, custom⟩ := merge_of_absent absent gosuBase
  obtain ⟨s, hs, found⟩ := getOption_of_resolve (nodup_merge merged (by decide)) custom
  refine ⟨s, ?_, fun key hk fallback => ?_⟩
  · rw [combine_layers, merged]
    exact hs
  · rw [found key hk, get?_merge merged (mt canonical_eq_custom.mp hk), lastGiven, standard]
    cases lastFor (file ++ overrides) (canonical key) <;> rfl

/-- **Settings are read back as they were written.** Under whichever spelling a setting is looked up,
the value is that of the last entry of the file and then of the overrides that spells the same setting.
Where there is none, it is the value without file and overrides. -/
theorem getOption_readBack {file overrides : Entries} {source : Option Path} {disk : Disk}
    (loaded : entriesOf source disk = .ok file) (hf : "custom" ∉ file.keys)
    (ho : "custom" ∉ overrides.keys) :
    ∃ s t, forLanguage (.str "gosu") (.obj overrides) source disk = .ok s ∧
      forLanguage (.str "gosu") .null none disk = .ok t ∧
      ∀ key, key ≠ "custom" → ∀ fallback, ∃ w, t.getOption (.str key) fallback = .ok w ∧
        s.getOption (.str key) fallback = .ok ((lastGiven (file ++ overrides) key).getD w) := by
  obtain ⟨s, hs, found⟩ := getOption_of_combine hf ho
  have none : "custom" ∉ Entries.keys [] := List.not_mem_nil
  obtain ⟨t, ht, standards⟩ := getOption_of_combine none none
  refine ⟨s, t, ?_, ht, fun key hk fallback =>
    ⟨standard key fallback, standards key hk fallback, found key hk fallback⟩⟩
  rw [forLanguage_eq, base_gosu, loaded]
  exact hs

/-- A file that gives the indentation under two spellings, and a stub. -/
def spelledText : String :=
  "\x7b\"gosu.gen.indentSpaces\": 2, \"stub_statement\": \"F\", \"indent_size\": 3\x7d"

def spelledFile : Entries :=
  [("gosu.gen.indentSpaces", .int 2), ("stub_statement", .str "F"), ("indent_size", .int 3)]

def spelledOverrides : Entries := [("indentWidth", .int 6), ("motto", .str "O")]

theorem getOption_readBack_spelled :
    entriesOf (some settingsPath) (configured spelledText) = .ok spelledFile ∧
    "custom" ∉ spelledFile.keys ∧ "custom" ∉ spelledOverrides.keys ∧
    ∃ s, forLanguage (.str "gosu") (.obj spelledOverrides) (some settingsPath)
        (configured spelledText) = .ok s ∧
      s.getOption (.str "gosu.gen.indentSpaces") .null = .ok (.int 6) ∧
      s.getOption (.str "stub_statement") .null = .ok (.str "F") ∧
      s.getOption (.str "motto") .null = .ok (.str "O") := by
  have loaded : entriesOf (some settingsPath) (configured spelledText) = .ok spelledFile :=
    load_configured (by decide +kernel)
  have hf : "custom" ∉ spelledFile.keys := by decide
  have ho : "custom" ∉ spelledOverrides.keys := by decide
  obtain ⟨s, t, hs, -, found⟩ := getOption_readBack loaded hf ho
  have given (key : String) (hk : key ≠ "custom") (v : Value)
      (last : lastGiven (spelledFile ++ spelledOverrides) key = some v) :
      s.getOption (.str key) .null = .ok v := by
    obtain ⟨w, -, e⟩ := found key hk .null
    rw [e, last]
    rfl
  exact ⟨loaded, hf, ho, s, hs, given _ (by decide) _ rfl, given _ (by decide) _ rfl,
    given _ (by decide) _ rfl⟩

end GosuForge.Settings
