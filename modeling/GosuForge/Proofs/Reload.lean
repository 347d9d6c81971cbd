import GosuForge.Proofs.Disk
import GosuForge.Proofs.Equality
import GosuForge.Proofs.Layers
import Mathlib.Data.List.Perm.Subperm

/-!
# Settings that are saved and loaded again

A file holds the settings by name and the custom settings beside them. Loaded on top of the defaults
of a language, the custom settings must not be mistaken for anything else.

* `Settings.toEntries_of_object`: what is written to a file;
* `Settings.Restorable`: custom settings that are told apart when they are read;
* `Settings.combine_of_restorable`: such settings are read as they were written;
* `Settings.restorable_of_combine`: no others are, above all none with a key `custom`;
* `Settings.save_reload`: the way through a file.
-/

namespace GosuForge

namespace Disk

/-- Any text can be written to the path. -/
def Writable (d : Disk) (path : Path) : Prop :=
  hasNul path = false ∧ ∀ text, ∃ d', d.writeText path text = .ok d'

theorem exists?_of_holds {d : Disk} {path : Path} (nul : hasNul path = false) {node : DiskNode}
    (h : d.Holds path node) : d.exists? path = .ok true := by
  obtain ⟨place, h⟩ := h
  rw [exists?, find, nul, h]
  rfl

end Disk

namespace Value

/-- Keys as values. -/
def ofKeys (entries : Entries) : List (Value × Value) := entries.map fun e => (str e.1, e.2)

theorem putPair_str (key : String) (v : Value) (entries : Entries) :
    putPair (str key) v (ofKeys entries) = ofKeys (entries.put key v) := by
  induction entries with
  | nil => rfl
  | cons entry rest ih =>
    obtain ⟨k, w⟩ := entry
    have same : (str k).sameKey (str key) = (k == key) := by simp [sameKey]
    rw [ofKeys, List.map_cons, ← ofKeys, putPair, same, Entries.put, ih]
    by_cases h : k = key <;> simp [h, ofKeys]

/-- The entries of an object are put on top of others. -/
theorem readOnto_obj (earlier later : Entries) :
    readOnto (ofKeys earlier) (obj later) = .ok (ofKeys (earlier.update later)) := by
  rw [readOnto]
  congr 1
  induction later generalizing earlier with
  | nil => rfl
  | cons entry rest ih =>
    obtain ⟨key, v⟩ := entry
    rw [List.foldl_cons]
    dsimp only
    rw [putPair_str, ih]
    rfl

end Value

namespace Settings

open SettingsField

/-- Settings are equal if each of them is. -/
def equal (s t : Settings) : Bool := SettingsField.all.all fun f => (s.get f).equal (t.get f)

theorem equal_iff {s t : Settings} :
    s.equal t = true ↔ ∀ f, (s.get f).equal (t.get f) = true := by
  rw [equal, List.all_eq_true]
  exact ⟨fun h f => h f (by cases f <;> decide), fun h f _ => h f⟩

/-! ## What is written -/

/-- The settings by name, without the custom ones. -/
def plain (s : Settings) : Entries :=
  (SettingsField.all.filter (· ≠ .custom)).map fun f => (f.name, s.get f)

theorem keys_plain (s : Settings) :
    s.plain.keys =
      ["output_dir", "indent_size", "use_tabs", "line_ending", "doc_comments", "author"] := rfl

theorem get?_plain (s : Settings) {f : SettingsField} (h : f ≠ .custom) :
    s.plain.get? f.name = some (s.get f) := by
  cases f <;> first | rfl | contradiction

theorem mem_names_of_mem_plain {s : Settings} {key : String} (h : key ∈ s.plain.keys) :
    key ∈ all.map name := by
  have : s.plain.keys ⊆ all.map name := by
    rw [keys_plain]
    decide
  exact this h

/-- Custom settings take the place of a setting of the same name. -/
theorem toEntries_of_object {s : Settings} {custom : Entries} (h : s.custom = .obj custom) :
    s.toEntries = .ok (s.plain.update custom) := by
  have read : s.custom.readOnto (Value.ofKeys s.plain) =
      .ok (Value.ofKeys (s.plain.update custom)) := by
    rw [h, Value.readOnto_obj]
  have texts (entries : Entries) :
      (Value.ofKeys entries).map (fun pair => (pair.1.keyText, pair.2)) = entries := by
    rw [Value.ofKeys, List.map_map]
    exact List.map_id' entries
  refine Outcome.bind_eq_ok.mpr ⟨_, read, ?_⟩
  exact congrArg Except.ok (texts _)

/-! ## What is read -/

/-- Custom settings that are told apart when they are read: all that have a default are given, and none
is called as a setting is, be it by its name or by a further spelling. -/
structure Restorable (custom : Entries) : Prop where
  defaults : ∀ key ∈ gosuCustom.keys, key ∈ custom.keys
  unnamed : ∀ key ∈ custom.keys, key ∉ all.map name
  unspelled : ∀ key ∈ custom.keys, key ∉ spelled

/-- The lowest layer for Gosu. -/
def gosuBase : Entries :=
  [("indent_size", .int 4), ("use_tabs", .bool false), ("doc_comments", .bool true),
    ("custom", .obj gosuCustom)]

theorem base_gosu : base (.str "gosu") = .ok gosuBase := by
  have : Text.lower "gosu" = "gosu" := by decide +kernel
  rw [base, this]
  rfl

theorem gosuBase_named : ∀ key ∈ gosuBase.keys, key ∈ all.map name := by decide

theorem gosuCustom_apart : ∀ key ∈ gosuCustom.keys, key ∉ all.map name ∧ key ∉ spelled := by decide

/-- A file alone on top of the defaults. -/
theorem combine_gosu {entries : Entries} (nodup : entries.keys.Nodup) :
    ∃ layer, Merged gosuCustom gosuBase entries layer ∧
      combine (.str "gosu") .null entries = resolve layer := by
  have below : gosuBase.get? "custom" = some (.obj gosuCustom) := rfl
  obtain ⟨layer, hm, spec⟩ := merge_eq_ok nodup below
  refine ⟨layer, spec, ?_⟩
  rw [combine, base_gosu]
  show merge gosuBase entries >>= _ = _
  rw [hm]
  rfl

section

variable {s : Settings} {custom : Entries}

theorem nodup_saved (s : Settings) (custom : Entries) : (s.plain.update custom).keys.Nodup :=
  Entries.nodup_keys_update (by rw [keys_plain]; decide) custom

/-- In what is read, the keys that are no settings are those of the custom settings that are no
further spellings. -/
theorem mem_keys_further_saved {layer : Entries}
    (spec : Merged gosuCustom gosuBase (s.plain.update custom) layer) {k : String} :
    k ∈ (further layer).keys ↔ k ∉ all.map name ∧ k ∉ spelled ∧ k ∈ custom.keys := by
  rw [mem_keys_further, spec.mem_keys]
  refine and_congr_right fun unnamed => ?_
  constructor
  · rintro (hk | ⟨key, hk, rfl⟩)
    · exact absurd (gosuBase_named k hk) unnamed
    · refine ⟨canonical_not_spelled key, ?_⟩
      have same : canonical key = key := by
        rcases canonical_cases key with ⟨-, f, -, e⟩ | ⟨-, e⟩
        · rw [e] at unnamed
          exact absurd (name_mem f) unnamed
        · exact e
      rw [same] at unnamed ⊢
      rcases Entries.mem_keys_update.mp hk with hk | hk
      · exact hk
      · exact absurd (mem_names_of_mem_plain hk) unnamed
  · rintro ⟨unspelled, hk⟩
    refine .inr ⟨k, Entries.mem_keys_update.mpr (.inl hk), ?_⟩
    rcases canonical_cases k with ⟨spelt, -⟩ | ⟨-, e⟩
    · exact absurd spelt unspelled
    · exact e

/-- Where no custom setting is called as a setting, a file has no key `custom`. -/
theorem get?_custom_saved (absent : "custom" ∉ custom.keys) {layer : Entries}
    (spec : Merged gosuCustom gosuBase (s.plain.update custom) layer) :
    layer.get? "custom" = some (.obj gosuCustom) := by
  have saved : (s.plain.update custom).get? "custom" = none := by
    refine Entries.get?_eq_none fun h => ?_
    rcases Entries.mem_keys_update.mp h with h | h
    · exact absent h
    · rw [keys_plain] at h
      exact absurd h (by decide)
  rw [spec.custom, saved]
  rfl

/-- Each key that is told apart is read with the value that was written for it. -/
theorem get?_saved (distinct : custom.keys.Nodup) (restorable : Restorable custom) {layer : Entries}
    (spec : Merged gosuCustom gosuBase (s.plain.update custom) layer) {k : String}
    (hk : k ≠ "custom") :
    layer.get? k = ((custom.get? k).or (s.plain.get? k)).or (gosuBase.get? k) := by
  have unspelled : ∀ key ∈ (s.plain.update custom).keys, key ∉ spelled := by
    intro key hkey
    rcases Entries.mem_keys_update.mp hkey with hkey | hkey
    · exact restorable.unspelled key hkey
    · obtain ⟨f, -, rfl⟩ := List.mem_map.mp (mem_names_of_mem_plain hkey)
      exact name_not_spelled f
  rw [spec.get?_eq unspelled k hk, Entries.get?_update distinct]

/-- Custom settings that are told apart are read with the same keys, in another order. -/
theorem keys_perm_of_restorable (distinct : custom.keys.Nodup) (restorable : Restorable custom)
    {layer : Entries} (spec : Merged gosuCustom gosuBase (s.plain.update custom) layer) :
    custom.keys.Perm (gosuCustom.update (further layer)).keys := by
  rw [List.perm_ext_iff_of_nodup distinct (Entries.nodup_keys_update (by decide) _)]
  intro k
  rw [Entries.mem_keys_update, mem_keys_further_saved spec]
  constructor
  · intro hk
    exact .inl ⟨restorable.unnamed k hk, restorable.unspelled k hk, hk⟩
  · rintro (⟨-, -, hk⟩ | hk)
    · exact hk
    · exact restorable.defaults k hk

/-- **What is told apart is read as it was written.** -/
theorem combine_of_restorable (json : ∀ f, (s.get f).IsJson) (hc : s.custom = .obj custom)
    (restorable : Restorable custom) :
    ∃ t, combine (.str "gosu") .null (s.plain.update custom) = .ok t ∧ s.equal t = true := by
  have customJson : (Value.obj custom).IsJson := hc ▸ json .custom
  cases customJson with
  | obj _ distinct values =>
    obtain ⟨layer, spec, e⟩ := combine_gosu (nodup_saved s custom)
    have absent : "custom" ∉ custom.keys := fun h => restorable.unnamed _ h (by decide)
    have nodup : layer.keys.Nodup := spec.nodup (by decide)
    obtain ⟨t, ht, tc, fields⟩ := resolve_of_object nodup (get?_custom_saved absent spec)
    refine ⟨t, e.trans ht, equal_iff.mpr fun f => ?_⟩
    by_cases hf : f = .custom
    · subst hf
      have length : custom.length = (gosuCustom.update (further layer)).length := by
        simpa [Entries.keys] using (keys_perm_of_restorable distinct restorable spec).length_eq
      rw [show s.get .custom = .obj custom from hc, show t.get .custom = t.custom from rfl]
      refine Value.equal_obj.mpr ⟨_, tc, length, ?_⟩
      rintro ⟨k, v⟩ he
      refine ⟨v, ?_, Value.equal_refl (values (k, v) he)⟩
      have hk : k ∈ custom.keys := List.mem_map_of_mem he
      have other : k ≠ "custom" := fun e => absent (e ▸ hk)
      have own : custom.get? k = some v := Association.lookup_of_mem distinct he
      have furtherNodup : (further layer).keys.Nodup :=
        Entries.nodup_keys_filter nodup fun key => !(ofName? key).isSome
      rw [Entries.get?_update furtherNodup, get?_further (restorable.unnamed k hk),
        get?_saved distinct restorable spec other, own]
      rfl
    · have free : custom.get? f.name = none :=
        Entries.get?_eq_none fun h => restorable.unnamed _ h (name_mem f)
      rw [fields f hf, get?_saved distinct restorable spec (name_ne_custom hf), free,
        get?_plain s hf]
      exact Value.equal_refl (json f)

/-- What stands under a key `custom` in the place of the custom settings is not as deep. -/
theorem nesting_lt_of_overlaid {v w : Value} {entries : Entries}
    (h : (overlaid gosuCustom v).asEntries = .ok entries) (hw : entries.get? "custom" = some w) :
    w.nesting < v.nesting := by
  cases v with
  | obj nested =>
    cases h
    rcases Entries.mem_of_get?_update hw with hw | hw
    · exact Nat.lt_succ_of_le (Value.nesting_le_of_mem_entries hw)
    · cases hw
  | _ => exact Value.nesting_lt_of_asEntries h hw

/-- A custom setting `custom` is taken for the custom settings as a whole. What is read in its place
stands inside of it, so it cannot be equal to it. -/
theorem custom_absent (distinct : custom.keys.Nodup) {layer : Entries}
    (spec : Merged gosuCustom gosuBase (s.plain.update custom) layer) {t : Settings}
    (ht : resolve layer = .ok t) (he : (Value.obj custom).equal t.custom = true) :
    "custom" ∉ custom.keys := by
  intro h
  obtain ⟨v, hv⟩ := Entries.mem_keys.mp h
  have given : layer.get? "custom" = some (overlaid gosuCustom v) := by
    rw [spec.custom, Entries.get?_update distinct, hv]
    rfl
  obtain ⟨ws, hws, -, values⟩ := Value.equal_obj.mp he
  obtain ⟨w, hw, equalled⟩ := values ("custom", v) (Association.mem_of_lookup hv)
  obtain ⟨entries, read, found⟩ : ∃ entries, (overlaid gosuCustom v).asEntries = .ok entries ∧
      entries.get? "custom" = some w := by
    rcases custom_of_resolve (spec.nodup (by decide)) given ht with e | ⟨entries, read, e⟩
    · rw [← e, hws]
      exact ⟨ws, rfl, hw⟩
    · cases hws.symm.trans e
      refine ⟨entries, read, ?_⟩
      rcases Entries.mem_of_get?_update hw with hw | hw
      · have : "custom" ∈ (further layer).keys := List.mem_map_of_mem hw
        exact absurd (by decide) (mem_keys_further.mp this).1
      · exact hw
  have deep : v.nesting ≤ w.nesting := Value.nesting_le_of_equal equalled
  have flat := nesting_lt_of_overlaid read found
  omega

/-- **What is read as it was written was told apart.** -/
theorem restorable_of_combine (hc : s.custom = .obj custom) (distinct : custom.keys.Nodup)
    {t : Settings} (ht : combine (.str "gosu") .null (s.plain.update custom) = .ok t)
    (he : s.equal t = true) : Restorable custom := by
  obtain ⟨layer, spec, e⟩ := combine_gosu (nodup_saved s custom)
  rw [e] at ht
  have customEqual : (Value.obj custom).equal t.custom = true := hc ▸ equal_iff.mp he .custom
  have absent := custom_absent distinct spec ht customEqual
  obtain ⟨t', ht', tc, -⟩ :=
    resolve_of_object (spec.nodup (by decide)) (get?_custom_saved absent spec)
  cases ht'.symm.trans ht
  rw [tc] at customEqual
  obtain ⟨ws, hws, length, values⟩ := Value.equal_obj.mp customEqual
  cases hws
  have inside : custom.keys ⊆ (gosuCustom.update (further layer)).keys := by
    intro key hk
    obtain ⟨v, hv⟩ := Entries.mem_keys.mp hk
    obtain ⟨w, hw, -⟩ := values (key, v) (Association.mem_of_lookup hv)
    exact Entries.mem_keys.mpr ⟨w, hw⟩
  have apart (key : String) (hk : key ∈ custom.keys) : key ∉ all.map name ∧ key ∉ spelled := by
    rcases Entries.mem_keys_update.mp (inside hk) with hk | hk
    · obtain ⟨unnamed, unspelled, -⟩ := (mem_keys_further_saved spec).mp hk
      exact ⟨unnamed, unspelled⟩
    · exact gosuCustom_apart key hk
  refine ⟨fun key hk => ?_, fun key hk => (apart key hk).1, fun key hk => (apart key hk).2⟩
  have perm : custom.keys.Perm (gosuCustom.update (further layer)).keys := by
    refine (distinct.subperm inside).perm_of_length_le ?_
    simp [Entries.keys, length]
  exact perm.mem_iff.mpr (Entries.mem_keys_update.mpr (.inr hk))

end

/-! ## Through a file -/

/-- The text that is written for settings is read as it was meant, with the keys in their order. -/
def ReadsBack (s : Settings) : Prop :=
  ∀ entries, s.toEntries = .ok entries → ∀ malformed,
    Json.ofFile malformed (Json.indented (.obj entries)) = .ok (.obj entries)

/-- A file is loaded by its suffix: one whose whole name is the suffix has none. -/
theorem load_eq {path : Path} {stem : String} (named : path.name = stem ++ ".json") {disk : Disk}
    (nul : Disk.hasNul path = false) {text : String} (read : disk.readText path = .ok text)
    {entries : Entries}
    (parsed : ∀ malformed, Json.ofFile malformed text = .ok (.obj entries)) :
    load path disk =
      if stem = "" then .error (.settings (.notJson path)) else .ok entries := by
  have found := Disk.exists?_of_holds nul (Disk.readText_eq_ok.mp read)
  have suffix : path.suffix = if stem = "" then "" else ".json" := by
    have dotted : path.name = stem ++ "." ++ "json" := by
      rw [named, String.append_assoc]
      rfl
    exact Path.suffix_eq dotted (by decide) (by decide)
  have lower : Text.lower ".json" = ".json" := by decide +kernel
  have none : Text.lower "" = "" := by decide +kernel
  simp only [load, found, bind, Except.bind, Bool.not_true, Bool.false_eq_true, if_false, suffix]
  by_cases h : stem = ""
  · simp [h, none]
  · simp only [h, if_false, lower, bne_self_eq_false, Bool.false_eq_true, read, parsed]

theorem save_eq {s : Settings} {entries : Entries} (he : s.toEntries = .ok entries) {path : Path}
    {disk disk' : Disk} (nul : Disk.hasNul path = false)
    (written : disk.writeText path (Json.indented (.obj entries)) = .ok disk') :
    s.save path disk = .ok disk' := by
  simp only [save, he, bind, Except.bind, nul, Bool.false_eq_true, if_false, written]

/-- **Settings are loaded as they were saved** just if the file is called by more than its suffix and
the custom settings are told apart from the others. They can be saved wherever a text can be
written. -/
theorem save_reload {s : Settings} {custom : Entries} (json : ∀ f, (s.get f).IsJson)
    (hc : s.custom = .obj custom) {path : Path} {stem : String}
    (named : path.name = stem ++ ".json") {disk : Disk} (writable : disk.Writable path)
    (readsBack : s.ReadsBack) :
    ∃ disk', s.save path disk = .ok disk' ∧
      ((∃ t, forLanguage (.str "gosu") .null (some path) disk' = .ok t ∧ s.equal t = true) ↔
        stem ≠ "" ∧ Restorable custom) := by
  obtain ⟨nul, write⟩ := writable
  have he := toEntries_of_object hc
  obtain ⟨disk', written⟩ := write (Json.indented (.obj (s.plain.update custom)))
  refine ⟨disk', save_eq he nul written, ?_⟩
  have loaded := load_eq named nul (Disk.readText_of_writeText written) (readsBack _ he)
  have reload : forLanguage (.str "gosu") .null (some path) disk' =
      load path disk' >>= combine (.str "gosu") .null := by
    rw [forLanguage, base_gosu]
    rfl
  rw [reload, loaded]
  have distinct : custom.keys.Nodup := by
    have customJson : (Value.obj custom).IsJson := hc ▸ json .custom
    cases customJson with
    | obj _ distinct _ => exact distinct
  by_cases h : stem = ""
  · rw [if_pos h]
    constructor
    · rintro ⟨t, ht, -⟩
      cases ht
    · rintro ⟨some, -⟩
      exact absurd h some
  · rw [if_neg h]
    constructor
    · rintro ⟨t, ht, e⟩
      exact ⟨h, restorable_of_combine hc distinct ht e⟩
    · rintro ⟨-, restorable⟩
      exact combine_of_restorable json hc restorable

/-! ## Settings with one more custom setting -/

/-- The custom settings of Gosu and another one. -/
def styledCustom : Entries := gosuCustom ++ [("tags", .arr [.str "a\tb", .null])]

def styled : Settings := { default with custom := .obj styledCustom }

/-- The lines that are written for them. -/
def styledLines : List String :=
  ["\x7b", "  \"output_dir\": null,", "  \"indent_size\": 4,", "  \"use_tabs\": false,",
   "  \"line_ending\": \"\\n\",", "  \"doc_comments\": true,", "  \"author\": null,",
   "  \"source_extension\": \".gs\",", "  \"enhancement_extension\": \".gsx\",", "  \"uses\": [",
   "    \"java.util.*\"", "  ],", "  \"stub_statement\": \"// TODO implement here\",",
   "  \"tags\": [", "    \"a\\tb\",", "    null", "  ]", "\x7d"]

theorem styled_json (f : SettingsField) : (styled.get f).IsJson := by
  cases f with
  | custom =>
    refine .obj styledCustom (by decide) fun entry he => ?_
    simp only [styledCustom, gosuCustom, List.cons_append, List.nil_append, List.mem_cons,
      List.not_mem_nil, or_false] at he
    rcases he with rfl | rfl | rfl | rfl | rfl
    · exact .str _
    · exact .str _
    · refine .arr _ fun v hv => ?_
      rw [List.mem_singleton.mp hv]
      exact .str _
    · exact .str _
    · refine .arr _ fun v hv => ?_
      simp only [List.mem_cons, List.not_mem_nil, or_false] at hv
      rcases hv with rfl | rfl
      · exact .str _
      · exact .null
  | outputDir => exact .null
  | indentSize => exact .int 4
  | useTabs => exact .bool false
  | lineEnding => exact .str "\n"
  | docComments => exact .bool true
  | author => exact .null

theorem styled_readsBack : styled.ReadsBack := by
  intro entries he malformed
  cases (toEntries_of_object (s := styled) rfl).symm.trans he
  have written : Json.indented (.obj (styled.plain.update styledCustom)) =
      Text.joinLines styledLines := by
    decide +kernel
  -- The text is read line by line, as a whole it would be too long.
  have read : Json.readChars (Text.unifyEndings (Text.joinLines styledLines).toList) =
      .ok (.obj (styled.plain.update styledCustom)) := by
    rw [Text.joinLines, Text.toList_join]
    decide +kernel
  rw [written, Json.ofFile, Json.read, String.toList_ofList, read]

theorem styled_restorable : Restorable styledCustom := ⟨by decide, by decide, by decide⟩

theorem writable_gosu : Disk.empty.Writable (.ofString "gosu.json") := by
  refine ⟨by decide +kernel, fun text => ?_⟩
  exact ⟨_, Disk.writeText_eq_ok.mpr ⟨["work", "gosu.json"], none, rfl, nofun, rfl⟩⟩

theorem save_reload_styled :
    (∀ f, (styled.get f).IsJson) ∧ styled.custom = .obj styledCustom ∧
    (Path.ofString "gosu.json").name = "gosu" ++ ".json" ∧
    Disk.empty.Writable (.ofString "gosu.json") ∧ styled.ReadsBack ∧ Restorable styledCustom ∧
    ∃ disk' t, styled.save (.ofString "gosu.json") .empty = .ok disk' ∧
      forLanguage (.str "gosu") .null (some (.ofString "gosu.json")) disk' = .ok t ∧
      styled.equal t = true := by
  have named : (Path.ofString "gosu.json").name = "gosu" ++ ".json" := by decide +kernel
  obtain ⟨disk', saved, restored⟩ :=
    save_reload styled_json rfl named writable_gosu styled_readsBack
  obtain ⟨t, loaded, e⟩ := restored.mpr ⟨by decide, styled_restorable⟩
  exact ⟨styled_json, rfl, named, writable_gosu, styled_readsBack, styled_restorable, disk', t,
    saved, loaded, e⟩

/-- A file that is called by nothing but the suffix is written, and is then refused. -/
theorem suffix_alone_refused :
    (∀ f, (styled.get f).IsJson) ∧ styled.custom = .obj styledCustom ∧
    (Path.ofString ".json").toString = ".json" ∧ Disk.empty.Writable (.ofString ".json") ∧
    styled.ReadsBack ∧ Restorable styledCustom ∧
    ∃ disk', styled.save (.ofString ".json") .empty = .ok disk' ∧
      ¬ ∃ t, forLanguage (.str "gosu") .null (some (.ofString ".json")) disk' = .ok t ∧
        styled.equal t = true := by
  have named : (Path.ofString ".json").name = "" ++ ".json" := by decide +kernel
  have nul : Disk.hasNul (.ofString ".json") = false := by decide +kernel
  have write (text : String) : Disk.empty.writeText (.ofString ".json") text =
      .ok (Disk.empty.set ["work", ".json"] (.file text)) :=
    Disk.writeText_eq_ok.mpr ⟨["work", ".json"], none, rfl, nofun, rfl⟩
  have entries := toEntries_of_object (s := styled) rfl
  refine ⟨styled_json, rfl, by decide +kernel, ⟨nul, fun text => ⟨_, write text⟩⟩,
    styled_readsBack, styled_restorable, _, save_eq entries nul (write _), ?_⟩
  rintro ⟨t, loaded, -⟩
  have refused := load_eq named nul (Disk.readText_of_writeText (write _))
    (styled_readsBack _ entries)
  rw [forLanguage, base_gosu, refused] at loaded
  cases loaded

end Settings

end GosuForge
