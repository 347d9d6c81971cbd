import GosuForge.Proofs.Entries
import GosuForge.Proofs.Outcome
import GosuForge.Settings.Layers

/-!
# Layers of settings, key by key

* `SettingsField.canonical_cases`: a key is a further spelling of a setting or stands for itself;
* `Settings.Merged`: what a layer holds with entries on top of it, `Settings.merge_eq_ok`;
* `Settings.resolve_of_object`: the settings that a layer with an object of custom settings stands for,
  `Settings.custom_of_resolve`: the custom settings whatever the layer has for them.
-/

namespace GosuForge

namespace SettingsField

/-- The further spellings of settings. -/
def spelled : List String := spellings.map Prod.fst

theorem ofName?_name (f : SettingsField) : ofName? f.name = some f := by
  cases f <;> rfl

theorem name_mem (f : SettingsField) : f.name ∈ all.map name :=
  List.mem_map_of_mem (by cases f <;> decide)

theorem name_custom : custom.name = "custom" := rfl

theorem name_ne_custom {f : SettingsField} (h : f ≠ custom) : f.name ≠ "custom" := by
  cases f <;> first | contradiction | decide

theorem ne_custom_of_unnamed {key : String} (h : key ∉ all.map name) : key ≠ "custom" := by
  rintro rfl
  exact h (name_mem custom)

theorem name_of_ofName? {key : String} {f : SettingsField} (h : ofName? key = some f) :
    f.name = key := by
  rw [ofName?] at h
  simpa using List.find?_some h

theorem isSome_ofName? {key : String} : (ofName? key).isSome = true ↔ key ∈ all.map name := by
  constructor
  · intro h
    obtain ⟨f, hf⟩ := Option.isSome_iff_exists.mp h
    rw [← name_of_ofName? hf]
    exact name_mem f
  · intro h
    obtain ⟨f, -, rfl⟩ := List.mem_map.mp h
    rw [ofName?_name]
    rfl

/-- A key is a further spelling, and then of a setting other than the custom ones, or it stands for
itself. -/
theorem canonical_cases (key : String) :
    key ∈ spelled ∧ (∃ f, f ≠ custom ∧ canonical key = f.name) ∨
      key ∉ spelled ∧ canonical key = key := by
  by_cases h : key ∈ spelled
  · refine .inl ⟨h, ?_⟩
    simp only [spelled, spellings, List.map_cons, List.map_nil, List.mem_cons, List.not_mem_nil,
      or_false] at h
    rcases h with rfl | rfl | rfl | rfl | rfl | rfl
    · exact ⟨docComments, by decide, by decide⟩
    · exact ⟨useTabs, by decide, by decide⟩
    · exact ⟨indentSize, by decide, by decide⟩
    · exact ⟨docComments, by decide, by decide⟩
    · exact ⟨useTabs, by decide, by decide⟩
    · exact ⟨indentSize, by decide, by decide⟩
  · refine .inr ⟨h, ?_⟩
    rw [canonical, Association.lookup_eq_none h]
    rfl

theorem name_not_spelled (f : SettingsField) : f.name ∉ spelled := by
  cases f <;> decide

/-- No canonical key is a further spelling of another one. -/
theorem canonical_not_spelled (key : String) : canonical key ∉ spelled := by
  rcases canonical_cases key with ⟨-, f, -, e⟩ | ⟨h, e⟩
  · rw [e]
    exact name_not_spelled f
  · rwa [e]

theorem canonical_eq_custom {key : String} : canonical key = "custom" ↔ key = "custom" := by
  rcases canonical_cases key with ⟨spelt, f, hf, e⟩ | ⟨-, e⟩
  · rw [e]
    constructor
    · exact fun h => absurd h (name_ne_custom hf)
    · rintro rfl
      exact absurd spelt (name_not_spelled custom)
  · rw [e]

end SettingsField

namespace Settings

open SettingsField

/-! ## Entries on top of a layer -/

/-- What custom settings become when a value is given for them: two objects are united. -/
def overlaid (below : Entries) : Value → Value
  | .obj nested => .obj (below.update nested)
  | v => v

theorem mergeEntry_of_ne {key : String} (h : key ≠ "custom") (layer : Entries) (v : Value) :
    mergeEntry layer key v = .ok (layer.put (canonical key) v) := by
  have other : canonical key ≠ "custom" := mt canonical_eq_custom.mp h
  simp only [mergeEntry]
  generalize canonical key = k at other
  split
  · contradiction
  · rfl

theorem mergeEntry_custom {layer below : Entries} (h : layer.get? "custom" = some (.obj below))
    (v : Value) : mergeEntry layer "custom" v = .ok (layer.put "custom" (overlaid below v)) := by
  have same : canonical "custom" = "custom" := canonical_eq_custom.mpr rfl
  cases v with
  | obj nested => simp only [mergeEntry, same, Entries.getD, h, Option.getD_some, overlaid]
  | _ => simp only [mergeEntry, same, overlaid]

/-- What a layer holds with entries on top of it, when it had the custom settings `below`. -/
structure Merged (below layer entries merged : Entries) : Prop where
  mem_keys : ∀ k, k ∈ merged.keys ↔ k ∈ layer.keys ∨ ∃ key ∈ entries.keys, canonical key = k
  nodup : layer.keys.Nodup → merged.keys.Nodup
  custom : merged.get? "custom" =
    match entries.get? "custom" with
    | some v => some (overlaid below v)
    | none => layer.get? "custom"
  /-- Where no key is a further spelling, each has its own value. -/
  get?_eq : (∀ key ∈ entries.keys, key ∉ spelled) → ∀ k, k ≠ "custom" →
    merged.get? k = (entries.get? k).or (layer.get? k)

theorem Merged.nil (below layer : Entries) : Merged below layer [] layer where
  mem_keys k := by simp [Entries.keys]
  nodup h := h
  custom := rfl
  get?_eq _ k _ := by
    rw [show Entries.get? [] k = none from rfl, Option.none_or]

/-- One entry first, and then the others. -/
theorem Merged.cons {below layer rest merged : Entries} {key : String} {v w : Value}
    (fresh : key ∉ rest.keys) (hw : key ≠ "custom" ∧ w = v ∨ key = "custom" ∧ w = overlaid below v)
    (h : Merged below (layer.put (canonical key) w) rest merged) :
    Merged below layer ((key, v) :: rest) merged where
  mem_keys k := by
    rw [h.mem_keys, Entries.mem_keys_put]
    simp only [Entries.keys, List.map_cons, List.mem_cons]
    constructor
    · rintro ((rfl | hk) | ⟨key', hk, rfl⟩)
      · exact .inr ⟨key, .inl rfl, rfl⟩
      · exact .inl hk
      · exact .inr ⟨key', .inr hk, rfl⟩
    · rintro (hk | ⟨key', rfl | hk, rfl⟩)
      · exact .inl (.inr hk)
      · exact .inl (.inl rfl)
      · exact .inr ⟨key', hk, rfl⟩
  nodup hl := h.nodup (Entries.nodup_keys_put hl _ _)
  custom := by
    rw [h.custom, Entries.get?_cons]
    rcases hw with ⟨other, rfl⟩ | ⟨rfl, rfl⟩
    · have apart : "custom" ≠ canonical key := fun e => other (canonical_eq_custom.mp e.symm)
      rw [if_neg (Ne.symm other), Entries.get?_put, if_neg apart]
    · rw [if_pos rfl, Entries.get?_eq_none fresh, Entries.get?_put,
        if_pos (canonical_eq_custom.mpr rfl).symm]
  get?_eq plain k hk := by
    obtain ⟨first, others⟩ := List.forall_mem_cons.mp plain
    have same : canonical key = key := by
      rcases canonical_cases key with ⟨spelt, -⟩ | ⟨-, e⟩
      · exact absurd spelt first
      · exact e
    rw [h.get?_eq others k hk, same, Entries.get?_put, Entries.get?_cons]
    by_cases hkey : k = key
    · subst hkey
      rcases hw with ⟨-, rfl⟩ | ⟨e, -⟩
      · rw [Entries.get?_eq_none fresh]
        simp
      · exact absurd e hk
    · simp [hkey]

theorem merge_eq_ok {below layer entries : Entries} (nodup : entries.keys.Nodup)
    (h : layer.get? "custom" = some (.obj below)) :
    ∃ merged, merge layer entries = .ok merged ∧ Merged below layer entries merged := by
  -- Once the custom settings are given they may be no object, but they are not given again.
  suffices ∀ layer : Entries, ("custom" ∈ entries.keys → layer.get? "custom" = some (.obj below)) →
      ∃ merged, merge layer entries = .ok merged ∧ Merged below layer entries merged from
    this layer fun _ => h
  clear h layer
  intro layer h
  induction entries generalizing layer with
  | nil => exact ⟨layer, rfl, .nil below layer⟩
  | cons entry rest ih =>
    obtain ⟨key, v⟩ := entry
    obtain ⟨fresh, distinct⟩ := List.nodup_cons.mp nodup
    by_cases hkey : key = "custom"
    · subst hkey
      have hl := h List.mem_cons_self
      obtain ⟨merged, hm, spec⟩ := ih distinct (layer.put "custom" (overlaid below v))
        fun again => absurd again fresh
      refine ⟨merged, ?_, ?_⟩
      · rw [merge, mergeEntry_custom hl]
        exact hm
      · refine .cons fresh (.inr ⟨rfl, rfl⟩) ?_
        rwa [canonical_eq_custom.mpr rfl]
    · have apart : "custom" ≠ canonical key := fun e => hkey (canonical_eq_custom.mp e.symm)
      obtain ⟨merged, hm, spec⟩ := ih distinct (layer.put (canonical key) v) fun given => by
        rw [Entries.get?_put, if_neg apart]
        exact h (List.mem_cons_of_mem _ given)
      refine ⟨merged, ?_, .cons fresh (.inl ⟨hkey, rfl⟩) spec⟩
      rw [merge, mergeEntry_of_ne hkey]
      exact hm

/-! ## The settings that a layer stands for -/

theorem get_set (s : Settings) (v : Value) (field f : SettingsField) :
    (s.set v field).get f = if f = field then v else s.get f := by
  cases field <;> cases f <;> rfl

/-- Each setting is as it is named in the entries, or as it was. -/
theorem withEntries_eq_ok {entries : Entries} (named : ∀ key ∈ entries.keys, key ∈ all.map name)
    (nodup : entries.keys.Nodup) (s : Settings) :
    ∃ s', s.withEntries entries = .ok s' ∧
      ∀ f, s'.get f = (entries.get? f.name).getD (s.get f) := by
  induction entries generalizing s with
  | nil => exact ⟨s, rfl, fun f => rfl⟩
  | cons entry rest ih =>
    obtain ⟨key, v⟩ := entry
    obtain ⟨first, others⟩ := List.forall_mem_cons.mp named
    obtain ⟨fresh, distinct⟩ := List.nodup_cons.mp nodup
    obtain ⟨field, hfield⟩ := Option.isSome_iff_exists.mp (isSome_ofName?.mpr first)
    obtain rfl := name_of_ofName? hfield
    obtain ⟨s', hs, spec⟩ := ih others distinct (s.set v field)
    refine ⟨s', ?_, fun f => ?_⟩
    · rw [withEntries, hfield]
      exact hs
    · rw [spec, get_set, Entries.get?_cons]
      by_cases hf : f = field
      · subst hf
        rw [if_pos rfl, if_pos rfl, Entries.get?_eq_none fresh]
        rfl
      · have other : f.name ≠ field.name := fun e =>
          hf (Option.some.inj (by rw [← ofName?_name f, e, ofName?_name]))
        rw [if_neg hf, if_neg other]

/-- What a layer holds that is no setting by name. -/
def further (layer : Entries) : Entries :=
  layer.filter fun entry => !(ofName? entry.1).isSome

/-- What a layer holds for settings by name. -/
def named (layer : Entries) : Entries := layer.filter fun entry => (ofName? entry.1).isSome

theorem mem_keys_further {layer : Entries} {k : String} :
    k ∈ (further layer).keys ↔ k ∉ all.map name ∧ k ∈ layer.keys := by
  rw [further, Entries.mem_keys_filter (p := fun key => !(ofName? key).isSome), ← isSome_ofName?]
  simp

theorem get?_further {layer : Entries} {k : String} (h : k ∉ all.map name) :
    (further layer).get? k = layer.get? k := by
  have unnamed : (!(ofName? k).isSome) = true := by
    rw [← isSome_ofName?] at h
    simpa using h
  rw [further, Entries.get?_filter (fun key => !(ofName? key).isSome), if_pos unnamed]

theorem get?_named (layer : Entries) (f : SettingsField) :
    (named layer).get? f.name = layer.get? f.name := by
  rw [named, Entries.get?_filter (fun key => (ofName? key).isSome), ofName?_name]
  rfl

theorem getD_named {layer : Entries} {v : Value} (h : layer.get? "custom" = some v) :
    (named layer).getD "custom" (.obj []) = v := by
  rw [Entries.getD, ← name_custom, get?_named, name_custom, h]
  rfl

theorem ofEntries_eq_ok {entries : Entries} (hn : ∀ key ∈ entries.keys, key ∈ all.map name)
    (nodup : entries.keys.Nodup) :
    ∃ s, ofEntries entries = .ok s ∧ ∀ f, s.get f = (entries.get? f.name).getD (default.get f) :=
  withEntries_eq_ok hn nodup default

theorem mem_keys_named {layer : Entries} {k : String} :
    k ∈ (named layer).keys ↔ k ∈ all.map name ∧ k ∈ layer.keys := by
  rw [named, Entries.mem_keys_filter (p := fun key => (ofName? key).isSome), isSome_ofName?]

theorem nodup_keys_named {layer : Entries} (h : layer.keys.Nodup) : (named layer).keys.Nodup :=
  Entries.nodup_keys_filter h fun key => (ofName? key).isSome

theorem nodup_keys_further {layer : Entries} (h : layer.keys.Nodup) : (further layer).keys.Nodup :=
  Entries.nodup_keys_filter h fun key => !(ofName? key).isSome

/-- How a layer is resolved: what is no setting by name goes to the custom settings. -/
theorem resolve_eq (layer : Entries) :
    resolve layer =
      if (further layer).isEmpty then ofEntries (named layer)
      else ((named layer).getD "custom" (.obj [])).asEntries >>= fun custom =>
        ofEntries ((named layer).put "custom" (.obj (custom.update (further layer)))) := rfl

/-- The settings of a layer with other custom settings. -/
theorem ofEntries_put {layer : Entries} (nodup : layer.keys.Nodup) (v : Value) :
    ∃ s, ofEntries ((named layer).put "custom" v) = .ok s ∧ s.custom = v ∧
      ∀ f, f ≠ .custom → s.get f = (layer.get? f.name).getD (default.get f) := by
  have hn : ∀ key ∈ ((named layer).put "custom" v).keys, key ∈ all.map name := by
    intro key hk
    rcases Entries.mem_keys_put.mp hk with rfl | hk
    · decide
    · exact (mem_keys_named.mp hk).1
  obtain ⟨s, hs, spec⟩ :=
    ofEntries_eq_ok hn (Entries.nodup_keys_put (nodup_keys_named nodup) "custom" v)
  refine ⟨s, hs, ?_, fun f hf => ?_⟩
  · have := spec .custom
    rwa [name_custom, Entries.get?_put, if_pos rfl] at this
  · rw [spec f, Entries.get?_put, if_neg (name_ne_custom hf), get?_named]

theorem ofEntries_named {layer : Entries} (nodup : layer.keys.Nodup) :
    ∃ s, ofEntries (named layer) = .ok s ∧
      ∀ f, s.get f = (layer.get? f.name).getD (default.get f) := by
  obtain ⟨s, hs, spec⟩ :=
    ofEntries_eq_ok (fun key hk => (mem_keys_named.mp hk).1) (nodup_keys_named nodup)
  refine ⟨s, hs, fun f => ?_⟩
  rw [spec f, get?_named]

/-- Custom settings that are an object are united with what is no setting by name. -/
theorem resolve_of_object {layer custom : Entries} (nodup : layer.keys.Nodup)
    (h : layer.get? "custom" = some (.obj custom)) :
    ∃ s, resolve layer = .ok s ∧ s.custom = .obj (custom.update (further layer)) ∧
      ∀ f, f ≠ .custom → s.get f = (layer.get? f.name).getD (default.get f) := by
  rw [resolve_eq]
  by_cases none : (further layer).isEmpty = true
  · obtain ⟨s, hs, spec⟩ := ofEntries_named nodup
    refine ⟨s, by rw [if_pos none, hs], ?_, fun f _ => spec f⟩
    have := spec .custom
    rw [name_custom, h] at this
    rw [List.isEmpty_iff.mp none]
    exact this
  · obtain ⟨s, hs, hc, spec⟩ := ofEntries_put nodup (.obj (custom.update (further layer)))
    refine ⟨s, ?_, hc, spec⟩
    rw [if_neg none, getD_named h]
    exact hs

/-- Whatever a layer has for the custom settings, the other settings are as it names them. -/
theorem named_of_resolve {layer : Entries} (nodup : layer.keys.Nodup) {s : Settings}
    (hs : resolve layer = .ok s) {f : SettingsField} (hf : f ≠ .custom) :
    s.get f = (layer.get? f.name).getD (default.get f) := by
  rw [resolve_eq] at hs
  split at hs
  · obtain ⟨s', hs', fields⟩ := ofEntries_named nodup
    cases hs'.symm.trans hs
    exact fields f
  · obtain ⟨entries, -, hs⟩ := Outcome.bind_eq_ok.mp hs
    obtain ⟨s', hs', -, fields⟩ := ofEntries_put nodup (.obj (entries.update (further layer)))
    cases hs'.symm.trans hs
    exact fields f hf

/-- The custom settings that a layer stands for, in an equation. -/
theorem map_custom_resolve {layer : Entries} (nodup : layer.keys.Nodup) {v : Value}
    (h : layer.get? "custom" = some v) :
    (resolve layer).map Settings.custom =
      if (further layer).isEmpty then .ok v
      else v.asEntries.map fun entries => .obj (entries.update (further layer)) := by
  rw [resolve_eq, getD_named h]
  split
  · obtain ⟨s, hs, fields⟩ := ofEntries_named nodup
    have custom : s.get .custom = v := by
      rw [fields, name_custom, h]
      rfl
    rw [hs]
    exact congrArg Except.ok custom
  · cases v.asEntries with
    | error fault => rfl
    | ok entries =>
      obtain ⟨s, hs, custom, -⟩ := ofEntries_put nodup (.obj (entries.update (further layer)))
      show (ofEntries _).map _ = _
      rw [hs]
      exact congrArg Except.ok custom

/-- Whatever a layer has for the custom settings stays, or is read as an object. -/
theorem custom_of_resolve {layer : Entries} (nodup : layer.keys.Nodup) {v : Value}
    (h : layer.get? "custom" = some v) {s : Settings} (hs : resolve layer = .ok s) :
    s.custom = v ∨ ∃ entries, v.asEntries = .ok entries ∧
      s.custom = .obj (entries.update (further layer)) := by
  have custom := map_custom_resolve nodup h
  rw [hs] at custom
  split at custom
  · exact .inl (Except.ok.inj custom)
  · obtain ⟨entries, read, e⟩ := Outcome.map_eq_ok.mp custom.symm
    exact .inr ⟨entries, read, e.symm⟩

end Settings

end GosuForge
