import GosuForge.Proofs.ReadBack

/-!
# Defaults below the layers or filled in last

The defaults of Gosu are the lowest layer for the language, and they are filled in once more by what
takes settings over. So they may be left out below.

* `Settings.filledIn`: what is found among custom settings with the defaults filled in;
* `Settings.LayersAlike`: layers that differ only in custom settings that are filled in anyway;
* `Settings.merge_alike`, `Settings.resolve_alike`: such layers stay so under further entries, and stand
  for settings that differ in this way only;
* `Settings.forLanguage_alike`: so do settings for any language and those for Gosu.
-/

namespace GosuForge

namespace Entries

theorem get?_putNew (key : String) (v : Value) (entries : Entries) (k : String) :
    (entries.putNew key v).get? k = (entries.get? k).or (if k = key then some v else none) := by
  have single : List.lookup k [(key, v)] = if k = key then some v else none :=
    Association.lookup_cons key v [] k
  rw [putNew]
  split
  · rename_i given
    obtain ⟨w, hw⟩ := Option.isSome_iff_exists.mp given
    by_cases h : k = key
    · rw [h, hw]
      rfl
    · rw [if_neg h, Option.or_none]
  · rw [get?, List.lookup_append, single, ← get?]

theorem eq_nil_of_get? {entries : Entries} (h : ∀ k, entries.get? k = none) : entries = [] := by
  refine List.eq_nil_iff_forall_not_mem.mpr fun entry he => ?_
  obtain ⟨v, hv⟩ := mem_keys.mp (List.mem_map_of_mem (f := Prod.fst) he)
  exact nomatch (h entry.1).symm.trans hv

end Entries

namespace Value

/-- A value that is no object is read as an object in which no key is there twice. -/
theorem nodup_of_asEntries {v : Value} (h : ∀ entries, v ≠ .obj entries) {entries : Entries}
    (read : v.asEntries = .ok entries) : entries.keys.Nodup := by
  have put (pairs : List (Value × Value)) :
      (pairs.foldl (fun found pair => Entries.put pair.1.keyText pair.2 found) []).keys.Nodup := by
    rw [show pairs.foldl (fun found pair => Entries.put pair.1.keyText pair.2 found) [] =
      Entries.update [] (pairs.map fun pair => (pair.1.keyText, pair.2)) by
        rw [Entries.update, List.foldl_map]]
    have none : (Entries.keys []).Nodup := List.nodup_nil
    exact Entries.nodup_keys_update none _
  cases v with
  | obj given => exact absurd rfl (h given)
  | _ =>
    obtain ⟨pairs, -, read⟩ := Outcome.bind_eq_ok.mp read
    cases read
    exact put pairs

end Value

namespace Settings

open SettingsField

/-! ## Custom settings -/

/-- What is found among custom settings once the defaults of Gosu are filled in. -/
def filledIn (custom : Entries) (key : String) : Option Value :=
  (custom.get? key).or (gosuCustom.get? key)

theorem filledIn_update (custom later : Entries) (key : String) :
    filledIn (custom.update later) key =
      (Entries.get? later.reverse key).or (filledIn custom key) := by
  rw [filledIn, Entries.update_eq, Entries.get?, Association.lookup_putAll, Option.or_assoc]
  rfl

/-- Custom settings that are the same once the defaults are filled in, or that are the same and no
object. -/
inductive CustomAlike : Value → Value → Prop
  | objects {c d : Entries} (distinct : c.keys.Nodup) (distinct' : d.keys.Nodup)
      (found : ∀ key, filledIn c key = filledIn d key) : CustomAlike (.obj c) (.obj d)
  | other {v : Value} (h : ∀ entries, v ≠ .obj entries) : CustomAlike v v

/-! ## Layers -/

/-- Layers that give the same settings, up to defaults and custom settings that are filled in. -/
structure LayersAlike (layer layer' : Entries) : Prop where
  distinct : layer.keys.Nodup
  distinct' : layer'.keys.Nodup
  named : ∀ f : SettingsField, f ≠ .custom →
    (layer.get? f.name).getD (default.get f) = (layer'.get? f.name).getD (default.get f)
  unnamed : ∀ key, key ∉ all.map name → layer.get? key = layer'.get? key
  custom : ∃ v v', layer.get? "custom" = some v ∧ layer'.get? "custom" = some v' ∧ CustomAlike v v'

namespace LayersAlike

variable {layer layer' : Entries} (h : LayersAlike layer layer')

include h

/-- Any other setting may be given on both sides. -/
theorem put {key : String} (other : key ≠ "custom") (v : Value) :
    LayersAlike (layer.put key v) (layer'.put key v) where
  distinct := Entries.nodup_keys_put h.distinct key v
  distinct' := Entries.nodup_keys_put h.distinct' key v
  named f hf := by
    rw [Entries.get?_put, Entries.get?_put]
    split
    · rfl
    · exact h.named f hf
  unnamed k hk := by
    rw [Entries.get?_put, Entries.get?_put]
    split
    · rfl
    · exact h.unnamed k hk
  custom := by
    rw [Entries.get?_put, Entries.get?_put, if_neg (Ne.symm other), if_neg (Ne.symm other)]
    exact h.custom

theorem putCustom {v v' : Value} (alike : CustomAlike v v') :
    LayersAlike (layer.put "custom" v) (layer'.put "custom" v') where
  distinct := Entries.nodup_keys_put h.distinct "custom" v
  distinct' := Entries.nodup_keys_put h.distinct' "custom" v'
  named f hf := by
    rw [Entries.get?_put, Entries.get?_put, if_neg (name_ne_custom hf), if_neg (name_ne_custom hf)]
    exact h.named f hf
  unnamed k hk := by
    have other := ne_custom_of_unnamed hk
    rw [Entries.get?_put, Entries.get?_put, if_neg other, if_neg other]
    exact h.unnamed k hk
  custom := ⟨v, v', by rw [Entries.get?_put, if_pos rfl], by rw [Entries.get?_put, if_pos rfl], alike⟩

end LayersAlike

/-- What becomes of the custom settings of a layer when a value is given for them. -/
theorem mergeEntry_of_custom {layer : Entries} {w : Value} (h : layer.get? "custom" = some w)
    (v : Value) :
    mergeEntry layer "custom" v =
      match v, w with
      | .obj nested, .obj below => .ok (layer.put "custom" (.obj (Entries.update below nested)))
      | .obj _, _ => .error .noSuchMember
      | v, _ => .ok (layer.put "custom" v) := by
  cases v with
  | obj nested =>
    simp only [mergeEntry, canonical_eq_custom.mpr rfl, Entries.getD, h, Option.getD_some]
    cases w <;> rfl
  | _ => simp only [mergeEntry, canonical_eq_custom.mpr rfl]

theorem mergeEntry_alike {layer layer' : Entries} (h : LayersAlike layer layer') (key : String)
    (v : Value) : Outcome.Alike LayersAlike (mergeEntry layer key v) (mergeEntry layer' key v) := by
  by_cases hk : key = "custom"
  · subst hk
    obtain ⟨w, w', hw, hw', alike⟩ := h.custom
    rw [mergeEntry_of_custom hw, mergeEntry_of_custom hw']
    cases v with
    | obj nested =>
      cases alike with
      | objects distinct distinct' found =>
        refine h.putCustom (.objects (Entries.nodup_keys_update distinct nested)
          (Entries.nodup_keys_update distinct' nested) fun key => ?_)
        rw [filledIn_update, filledIn_update, found]
      | other none =>
        cases w with
        | obj c => exact absurd rfl (none c)
        | _ => exact rfl
    | _ => exact h.putCustom (.other nofun)
  · rw [mergeEntry_of_ne hk, mergeEntry_of_ne hk]
    exact h.put (mt canonical_eq_custom.mp hk) v

/-- Layers stay alike under any further entries, or the same entry is refused. -/
theorem merge_alike {layer layer' : Entries} (h : LayersAlike layer layer') (entries : Entries) :
    Outcome.Alike LayersAlike (merge layer entries) (merge layer' entries) := by
  induction entries generalizing layer layer' with
  | nil => exact h
  | cons entry rest ih => exact (mergeEntry_alike h entry.1 entry.2).seq fun _ _ next => ih next

/-! ## Settings -/

/-- Settings that differ only in custom settings that are filled in anyway. -/
structure Alike (s t : Settings) : Prop where
  named : ∀ f : SettingsField, f ≠ .custom → s.get f = t.get f
  custom : CustomAlike s.custom t.custom

namespace LayersAlike

variable {layer layer' : Entries} (h : LayersAlike layer layer')

include h

theorem get?_further (key : String) : (further layer).get? key = (further layer').get? key := by
  by_cases hk : key ∈ all.map name
  · have absent (layer : Entries) : (further layer).get? key = none :=
      Entries.get?_eq_none fun given => (mem_keys_further.mp given).1 hk
    rw [absent, absent]
  · rw [Settings.get?_further hk, Settings.get?_further hk, h.unnamed key hk]

theorem isEmpty_further : (further layer).isEmpty = (further layer').isEmpty := by
  rw [Bool.eq_iff_iff, List.isEmpty_iff, List.isEmpty_iff]
  constructor
  · intro none
    exact Entries.eq_nil_of_get? fun key => by rw [← h.get?_further, none]; rfl
  · intro none
    exact Entries.eq_nil_of_get? fun key => by rw [h.get?_further, none]; rfl

/-- Custom settings that are alike are so together with what is no setting by name. -/
theorem update_further {c d : Entries} (distinct : c.keys.Nodup) (distinct' : d.keys.Nodup)
    (found : ∀ key, filledIn c key = filledIn d key) :
    CustomAlike (.obj (c.update (further layer))) (.obj (d.update (further layer'))) := by
  refine .objects (Entries.nodup_keys_update distinct _) (Entries.nodup_keys_update distinct' _)
    fun key => ?_
  rw [filledIn, filledIn, Entries.get?_update (nodup_keys_further h.distinct),
    Entries.get?_update (nodup_keys_further h.distinct'), Option.or_assoc, Option.or_assoc, h.get?_further]
  exact congrArg _ (found key)

theorem settings {s t : Settings} (hs : resolve layer = .ok s) (ht : resolve layer' = .ok t)
    (custom : CustomAlike s.custom t.custom) : s.Alike t where
  named f hf := by
    rw [named_of_resolve h.distinct hs hf, named_of_resolve h.distinct' ht hf, h.named f hf]
  custom := custom

end LayersAlike

theorem resolve_alike {layer layer' : Entries} (h : LayersAlike layer layer') :
    Outcome.Alike Alike (resolve layer) (resolve layer') := by
  have customs : Outcome.Alike CustomAlike ((resolve layer).map Settings.custom)
      ((resolve layer').map Settings.custom) := by
    obtain ⟨v, v', hv, hv', alike⟩ := h.custom
    rw [map_custom_resolve h.distinct hv, map_custom_resolve h.distinct' hv', ← h.isEmpty_further]
    split
    · exact alike
    · cases alike with
      | objects distinct distinct' found => exact h.update_further distinct distinct' found
      | other none =>
        -- The same value is read as an object on both sides.
        cases read : v.asEntries with
        | error fault => rfl
        | ok entries =>
          have distinct := Value.nodup_of_asEntries none read
          exact h.update_further distinct distinct fun _ => rfl
  cases hs : resolve layer <;> cases ht : resolve layer' <;> rw [hs, ht] at customs
  · exact customs
  · exact customs.elim
  · exact customs.elim
  · exact h.settings hs ht customs

/-! ## Languages -/

/-- A text names Gosu, or it names a language without defaults of its own. -/
theorem base_cases (l : String) :
    base (.str l) = .ok gosuBase ∨ base (.str l) = .ok [("custom", .obj [])] := by
  rw [base, languageDefaults, List.lookup_cons]
  cases Text.lower l == "gosu"
  · exact .inr rfl
  · exact .inl rfl

/-- The defaults of Gosu may be left out of the lowest layer: they are those of every generator, or they
are filled in. -/
theorem layersAlike_gosuBase : LayersAlike [("custom", .obj [])] gosuBase where
  distinct := by decide
  distinct' := by decide
  named f hf := by
    cases f <;> first | rfl | contradiction
  unnamed key hk := by
    have absent : key ∉ gosuBase.keys := fun h => hk (gosuBase_named key h)
    rw [Entries.get?_eq_none absent]
    refine Entries.get?_eq_none fun h => hk ?_
    rw [List.mem_singleton.mp h]
    exact name_mem .custom
  custom := by
    refine ⟨_, _, rfl, rfl, .objects List.nodup_nil (by decide) fun key => ?_⟩
    rw [filledIn, filledIn, Option.or_self]
    rfl

theorem layersAlike_refl : LayersAlike gosuBase gosuBase where
  distinct := by decide
  distinct' := by decide
  named _ _ := rfl
  unnamed _ _ := rfl
  custom := ⟨_, _, rfl, rfl, .objects (by decide) (by decide) fun _ => rfl⟩

/-- **A language makes no difference but that the defaults of Gosu are filled in last**, whatever the
overrides and the file are. -/
theorem forLanguage_alike (l : String) (overrides : Value) (file : Option Path) (disk : Disk) :
    Outcome.Alike Alike (forLanguage (.str l) overrides file disk)
      (forLanguage (.str "gosu") overrides file disk) := by
  have lowest : Outcome.Alike LayersAlike (base (.str l)) (base (.str "gosu")) := by
    rw [base_gosu]
    rcases base_cases l with e | e <;> rw [e]
    · exact layersAlike_refl
    · exact layersAlike_gosuBase
  rw [forLanguage_eq, forLanguage_eq]
  refine lowest.seq fun _ _ _ => Outcome.Alike.bind fun entries _ => ?_
  exact lowest.seq fun _ _ below => (merge_alike below entries).seq fun _ _ middle =>
    Outcome.Alike.bind fun given _ => (merge_alike middle given).seq fun _ _ above =>
      resolve_alike above

end Settings

end GosuForge
