import GosuForge.Gosu.Generator
import GosuForge.Proofs.TakenOver

/-!
# Ways to make a generator

A generator is made from options, through the registry, or with the standard options below the given
ones. The standard options stand first, so what is given under a name of theirs stands before everything
that is given under a further spelling.

* `Entries.update_cons`: entries on top of others keep the first places;
* `Settings.lastRespelled`: what is given last for a setting under its further spellings;
* `Settings.lastFor_standard`: what is given last when the standard options stand first;
* `Generator.ways_agree_iff`: the three ways, and when they agree;
* `Generator.ways_part`: an option under two spellings for which they do not.
-/

namespace GosuForge

namespace Entries

theorem put_cons_self (key : String) (v w : Value) (entries : Entries) :
    put key v ((key, w) :: entries) = (key, v) :: entries := by
  rw [put, if_pos rfl]

theorem put_cons_of_ne {key k : String} (h : k ≠ key) (v w : Value) (entries : Entries) :
    put key v ((k, w) :: entries) = (k, w) :: put key v entries := by
  rw [put, if_neg h]

/-- The first entry has the value that is given last under its key, and the others are given what is
left. -/
theorem update_cons (key : String) (v : Value) (earlier later : Entries) :
    update ((key, v) :: earlier) later =
      (key, (get? later.reverse key).getD v) ::
        update earlier (later.filter fun entry => entry.1 != key) := by
  induction later generalizing v earlier with
  | nil => rfl
  | cons entry rest ih =>
    obtain ⟨k, w⟩ := entry
    have last : get? (rest.reverse ++ [(k, w)]) key =
        (get? rest.reverse key).or (if key = k then some w else none) := by
      rw [get?, List.lookup_append]
      exact congrArg _ (Association.lookup_cons k w [] key)
    show update (put k w ((key, v) :: earlier)) rest = _
    rw [List.reverse_cons, last]
    by_cases h : key = k
    · subst h
      rw [put_cons_self, ih, if_pos rfl, List.filter_cons_of_neg (by simp)]
      cases get? rest.reverse key <;> rfl
    · have other : (k != key) = true := by simpa using Ne.symm h
      rw [put_cons_of_ne h, ih, if_neg h, Option.or_none, List.filter_cons_of_pos (by exact other)]
      rfl

theorem get?_reverse {entries : Entries} (distinct : entries.keys.Nodup) (key : String) :
    get? entries.reverse key = entries.get? key := by
  have last := Association.lookup_putAll entries [] key
  have first := Association.lookup_putAll_of_nodup distinct [] key
  rw [last, List.lookup_nil, Option.or_none, Option.or_none] at first
  exact first

theorem put_of_fresh {key : String} {entries : Entries} (h : key ∉ entries.keys) (v : Value) :
    put key v entries = entries ++ [(key, v)] := by
  induction entries with
  | nil => rfl
  | cons entry rest ih =>
    obtain ⟨k, w⟩ := entry
    obtain ⟨first, others⟩ := not_or.mp (mt List.mem_cons.mpr h)
    rw [put_cons_of_ne (Ne.symm first), ih others]
    rfl

/-- Entries with keys of their own are put behind the others. -/
theorem update_of_fresh {earlier later : Entries} (distinct : (earlier ++ later).keys.Nodup) :
    update earlier later = earlier ++ later := by
  induction later generalizing earlier with
  | nil => exact (List.append_nil earlier).symm
  | cons entry rest ih =>
    obtain ⟨key, v⟩ := entry
    have fresh : key ∉ earlier.keys := by
      intro h
      rw [keys, List.map_append] at distinct
      exact (List.nodup_append.mp distinct).2.2 key h key List.mem_cons_self rfl
    have next : earlier ++ (key, v) :: rest = (earlier ++ [(key, v)]) ++ rest := by simp
    show update (put key v earlier) rest = _
    rw [put_of_fresh fresh, next]
    exact ih (next ▸ distinct)

end Entries

namespace Settings

open SettingsField

/-! ## What is given last -/

theorem lastFor_filter (entries : Entries) (p : String → Bool) (name : String) :
    lastFor (entries.filter fun entry => p entry.1) name =
      (entries.reverse.find? fun entry => p entry.1 = true ∧ canonical entry.1 = name).map
        Prod.snd := by
  rw [lastFor, ← List.filter_reverse, List.find?_filter]
  simp only [decide_eq_true_eq]

/-- Only the keys that are read as the name count. -/
theorem lastFor_filter_congr (entries : Entries) {p q : String → Bool} {name : String}
    (h : ∀ key, canonical key = name → p key = q key) :
    lastFor (entries.filter fun entry => p entry.1) name =
      lastFor (entries.filter fun entry => q entry.1) name := by
  have same (entry : String × Value) : (p entry.1 = true ∧ canonical entry.1 = name) ↔
      (q entry.1 = true ∧ canonical entry.1 = name) :=
    and_congr_left fun read => by rw [h entry.1 read]
  rw [lastFor_filter, lastFor_filter]
  simp only [same]

theorem lastFor_filter_of_forall (entries : Entries) {p : String → Bool} {name : String}
    (h : ∀ key, canonical key = name → p key = true) :
    lastFor (entries.filter fun entry => p entry.1) name = lastFor entries name := by
  rw [lastFor_filter_congr entries (q := fun _ => true) h, List.filter_true]

theorem isSome_lastFor_of_filter {entries : Entries} {p : String → Bool} {name : String}
    (h : (lastFor (entries.filter fun entry => p entry.1) name).isSome = true) :
    (lastFor entries name).isSome = true := by
  rw [lastFor_filter, Option.isSome_map, List.find?_isSome] at h
  obtain ⟨entry, he, found⟩ := h
  rw [lastFor, Option.isSome_map, List.find?_isSome]
  exact ⟨entry, he, decide_eq_true (of_decide_eq_true found).2⟩

/-- Where entries with the names of settings stand first, they have the values that are given under these
names, and count before all that is given under further spellings. -/
theorem lastFor_update {first : Entries} (plain : ∀ key ∈ first.keys, canonical key = key)
    (distinct : first.keys.Nodup) {later : Entries} (distinct' : later.keys.Nodup) (name : String) :
    lastFor (first.update later) name =
      (lastFor (later.filter fun entry => !first.keys.contains entry.1) name).or
        ((first.get? name).map fun v => (later.get? name).getD v) := by
  -- Each of the first entries takes what is given later under its own name out of the rest.
  induction first generalizing later with
  | nil =>
    have all : Entries.update [] later = later := Entries.update_of_fresh distinct'
    rw [all,
      lastFor_filter_of_forall later (p := fun key => !(Entries.keys []).contains key) fun _ _ => rfl]
    exact Option.or_none.symm
  | cons entry rest ih =>
    obtain ⟨key, v⟩ := entry
    obtain ⟨own, plain⟩ := List.forall_mem_cons.mp plain
    obtain ⟨fresh, distinct⟩ := List.nodup_cons.mp distinct
    have left : (later.filter fun entry => entry.1 != key).filter
          (fun entry => !(Entries.keys rest).contains entry.1) =
        later.filter fun entry => !(Entries.keys ((key, v) :: rest)).contains entry.1 := by
      rw [List.filter_filter]
      refine List.filter_congr fun entry _ => ?_
      rw [show Entries.keys ((key, v) :: rest) = key :: Entries.keys rest from rfl,
        List.contains_cons, Bool.not_or, Bool.and_comm]
      rfl
    rw [Entries.update_cons, Entries.get?_reverse distinct', lastFor_cons, own,
      ih plain distinct (Entries.nodup_keys_filter distinct' fun k => k != key), left,
      Entries.get?_cons, Option.or_assoc]
    congr 1
    by_cases h : key = name
    · subst h
      rw [if_pos rfl, if_pos rfl, Entries.get?_eq_none fresh]
      rfl
    · have kept : (name != key) = true := by simpa using Ne.symm h
      rw [if_neg h, if_neg (Ne.symm h), Option.or_none, Entries.get?_filter (fun k => k != key),
        if_pos kept]

/-- What is given last for a setting under its further spellings. -/
def lastRespelled (entries : Entries) (f : SettingsField) : Option Value :=
  lastFor (entries.filter fun entry => entry.1 != f.name) f.name

theorem canonical_name (f : SettingsField) : canonical f.name = f.name := by
  rcases canonical_cases f.name with ⟨spelt, -⟩ | ⟨-, same⟩
  · exact absurd spelt (name_not_spelled f)
  · exact same

/-- Where no further spelling is used the name alone counts. -/
theorem lastFor_of_not_respelled {entries : Entries} (distinct : entries.keys.Nodup)
    {f : SettingsField} (h : lastRespelled entries f = none) :
    lastFor entries f.name = entries.get? f.name := by
  refine lastFor_eq_get? distinct fun key hk => ⟨fun read => ?_, fun e => e ▸ canonical_name f⟩
  by_contra other
  obtain ⟨v, hv⟩ := Entries.mem_keys.mp hk
  rw [lastRespelled, lastFor_filter entries fun key => key != f.name, Option.map_eq_none_iff,
    List.find?_eq_none] at h
  have missed := h (key, v) (List.mem_reverse.mpr (Association.mem_of_lookup hv))
  simp [read, other] at missed

/-! ## Standard options -/

open Generator (standardOptions)

/-- The settings that have a standard option. -/
def standardFields : List SettingsField := [.docComments, .useTabs, .indentSize]

/-- What is given last for a setting with a standard option is what is given last under its further
spellings, if any of these is used. -/
def EndsRespelled (options : Entries) : Prop :=
  ∀ f ∈ standardFields, ∀ v, lastRespelled options f = some v → lastFor options f.name = some v

theorem keys_standardOptions : standardOptions.keys = standardFields.map name := rfl

theorem nodup_update_standard (options : Entries) : (standardOptions.update options).keys.Nodup :=
  Entries.nodup_keys_update (by decide) options

theorem canonical_of_mem_standard {key : String} (h : key ∈ standardOptions.keys) :
    canonical key = key := by
  rw [keys_standardOptions] at h
  obtain ⟨f, -, rfl⟩ := List.mem_map.mp h
  exact canonical_name f

/-- The standard options are what the lowest layer has. -/
theorem get?_standardOptions {f : SettingsField} (h : f ∈ standardFields) :
    ∃ v, standardOptions.get? f.name = some v ∧ gosuBase.get? f.name = some v := by
  simp only [standardFields, List.mem_cons, List.not_mem_nil, or_false] at h
  rcases h with rfl | rfl | rfl <;> exact ⟨_, rfl, rfl⟩

section

variable {options : Entries} (distinct : options.keys.Nodup)

include distinct

theorem lastFor_standard {f : SettingsField} (hf : f ∈ standardFields) :
    lastFor (standardOptions.update options) f.name = (lastRespelled options f).or
      ((standardOptions.get? f.name).map fun v => (options.get? f.name).getD v) := by
  rw [lastFor_update (fun _ => canonical_of_mem_standard) (by decide) distinct, lastRespelled]
  congr 1
  refine lastFor_filter_congr options (p := fun key => !standardOptions.keys.contains key)
    (q := fun key => key != f.name) fun key read => ?_
  rw [Bool.eq_iff_iff, Bool.not_eq_true', List.contains_eq_mem, decide_eq_false_iff_not,
    bne_iff_ne]
  constructor
  · rintro absent rfl
    exact absent (keys_standardOptions ▸ List.mem_map_of_mem hf)
  · intro other standard
    exact other ((canonical_of_mem_standard standard).symm.trans read)

theorem lastFor_standard_of_other {name : String} (h : name ∉ standardOptions.keys) :
    lastFor (standardOptions.update options) name = lastFor options name := by
  rw [lastFor_update (fun _ => canonical_of_mem_standard) (by decide) distinct,
    Entries.get?_eq_none h, Option.map_none, Option.or_none]
  refine lastFor_filter_of_forall options (p := fun key => !standardOptions.keys.contains key)
    fun key read => ?_
  rw [Bool.not_eq_true', List.contains_eq_mem, decide_eq_false_iff_not]
  intro standard
  exact h (read ▸ (canonical_of_mem_standard standard).symm ▸ standard)

/-- The standard options make no difference to a setting just if what is given for it last ends the
options, or none of its further spellings is used. -/
theorem lastFor_standard_iff {f : SettingsField} (hf : f ∈ standardFields) {v : Value}
    (standard : gosuBase.get? f.name = some v) :
    (lastFor options f.name).getD v = (lastFor (standardOptions.update options) f.name).getD v ↔
      ∀ w, lastRespelled options f = some w → lastFor options f.name = some w := by
  obtain ⟨v', option, base⟩ := get?_standardOptions hf
  cases standard.symm.trans base
  rw [lastFor_standard distinct hf, option]
  cases respelled : lastRespelled options f with
  | none =>
    rw [lastFor_of_not_respelled distinct respelled, Option.none_or]
    exact iff_of_true rfl nofun
  | some w =>
    have given : (lastFor options f.name).isSome = true :=
      isSome_lastFor_of_filter (p := fun key => key != f.name) (congrArg Option.isSome respelled)
    obtain ⟨u, hu⟩ := Option.isSome_iff_exists.mp given
    simp [hu]

theorem get?_custom_standard :
    Entries.get? (standardOptions.update options) "custom" = options.get? "custom" := by
  have none : standardOptions.get? "custom" = none := rfl
  rw [Entries.get?_update distinct, none, Option.or_none]

/-- Where nothing is given under the name of a setting after a further spelling of it, the standard options
make no difference to a layer. -/
theorem layersAlike_standard (ends : EndsRespelled options) {layer layer' : Entries}
    (h : merge gosuBase options = .ok layer)
    (h' : merge gosuBase (standardOptions.update options) = .ok layer') :
    LayersAlike layer layer' where
  distinct := nodup_merge h (by decide)
  distinct' := nodup_merge h' (by decide)
  named f hf := by
    rw [get?_merge h (name_ne_custom hf), get?_merge h' (name_ne_custom hf)]
    by_cases standard : f ∈ standardFields
    · obtain ⟨v, -, base⟩ := get?_standardOptions standard
      have same := (lastFor_standard_iff distinct standard base).mpr (ends f standard)
      rw [base, Option.getD_or, Option.getD_or, Option.getD_some, same]
    · rw [lastFor_standard_of_other distinct]
      rw [keys_standardOptions]
      cases f <;> first | decide | exact absurd (by decide) standard
  unnamed key hk := by
    have other := ne_custom_of_unnamed hk
    have absent : key ∉ standardOptions.keys := fun h => by
      rw [keys_standardOptions] at h
      obtain ⟨f, -, rfl⟩ := List.mem_map.mp h
      exact hk (name_mem f)
    rw [get?_merge h other, get?_merge h' other, lastFor_standard_of_other distinct absent]
  custom := by
    have base : gosuBase.get? "custom" = some (.obj gosuCustom) := rfl
    obtain ⟨_, e, spec⟩ := merge_eq_ok distinct base
    cases e.symm.trans h
    obtain ⟨_, e', spec'⟩ := merge_eq_ok (nodup_update_standard options) base
    cases e'.symm.trans h'
    have custom := spec.custom
    have custom' := spec'.custom
    rw [get?_custom_standard distinct] at custom'
    cases given : options.get? "custom" with
    | none =>
      rw [given] at custom custom'
      exact ⟨_, _, custom, custom', .objects (by decide) (by decide) fun _ => rfl⟩
    | some v =>
      rw [given] at custom custom'
      refine ⟨_, _, custom, custom', ?_⟩
      cases v with
      | obj nested =>
        have distinct : (gosuCustom.update nested).keys.Nodup :=
          Entries.nodup_keys_update (by decide) nested
        exact .objects distinct distinct fun _ => rfl
      | _ => exact .other nofun

end

end Settings

namespace Generator

open Settings

/-- Both are refused, or both are made with settings that are alike. -/
def Agree (x y : Except Fault Generator) : Prop :=
  (∃ fault fault', x = .error fault ∧ y = .error fault') ∨
    ∃ g h, x = .ok g ∧ y = .ok h ∧ g.settings.Alike h.settings

/-- Options are put on top of the defaults, resolved and taken over. -/
theorem ofOptions_eq (options : Entries) (header : Option Template) :
    ofOptions (.obj options) header =
      (merge gosuBase options >>= resolve >>= GosuSettings.accept).map fun g => gosu g header := by
  rw [ofOptions, combine_layers, List.nil_append]
  cases merge gosuBase options >>= resolve with
  | error fault => rfl
  | ok s =>
    show GosuSettings.accept s >>= _ = (GosuSettings.accept s).map _
    cases GosuSettings.accept s <;> rfl

theorem ofStandardOptions_eq (options : Entries) :
    ofStandardOptions (.obj options) =
      ofOptions (.obj (standardOptions.update options)) (some SourceFile.header) := by
  cases options <;> rfl

/-- The registry makes the generator that options make, and puts a fault down to the language. -/
theorem create_overrides (options : Entries) (disk : Disk) :
    Registry.bundled.create (.str "gosu") (.overrides options) disk =
      (ofOptions (.obj options) (some SourceFile.header)).mapError (Fault.creation "gosu") :=
  Registry.create_gosu (.overrides options) disk

/-- **The ways to make a generator.** The registry agrees with the options alone. The standard options
below them agree with these just if both are refused, or if nothing is given under the name of a setting
with a standard option after a further spelling of it has been given another value. -/
theorem ways_agree_iff {options : Entries} (distinct : options.keys.Nodup) (disk : Disk) :
    Registry.bundled.create (.str "gosu") (.overrides options) disk =
      (ofOptions (.obj options) (some SourceFile.header)).mapError (Fault.creation "gosu") ∧
    (Agree (ofOptions (.obj options) (some SourceFile.header)) (ofStandardOptions (.obj options)) ↔
      (∃ fault fault', ofOptions (.obj options) (some SourceFile.header) = .error fault ∧
        ofStandardOptions (.obj options) = .error fault') ∨ EndsRespelled options) := by
  refine ⟨create_overrides options disk, ?_⟩
  have base : gosuBase.get? "custom" = some (.obj gosuCustom) := rfl
  obtain ⟨layer, merged, -⟩ := merge_eq_ok distinct base
  obtain ⟨layer', merged', -⟩ := merge_eq_ok (nodup_update_standard options) base
  rw [ofStandardOptions_eq, ofOptions_eq, ofOptions_eq, merged, merged']
  show Agree ((resolve layer >>= GosuSettings.accept).map _)
    ((resolve layer' >>= GosuSettings.accept).map _) ↔ _
  refine or_congr_right' fun made => ?_
  constructor
  -- Settings that are alike name the same value, and each side names what its layer has.
  · rintro ⟨g, g', hg, hg', alike⟩ f hf
    obtain ⟨a, ha, rfl⟩ := Outcome.map_eq_ok.mp hg
    obtain ⟨a', ha', rfl⟩ := Outcome.map_eq_ok.mp hg'
    obtain ⟨s, hs, ha⟩ := Outcome.bind_eq_ok.mp ha
    obtain ⟨s', hs', ha'⟩ := Outcome.bind_eq_ok.mp ha'
    have plain : f ≠ .custom := by
      rintro rfl
      exact absurd hf (by decide)
    obtain ⟨v, -, standard⟩ := get?_standardOptions hf
    refine (lastFor_standard_iff distinct hf standard).mp ?_
    have value {layer options : Entries} (h : merge gosuBase options = .ok layer) :
        (layer.get? f.name).getD (default.get f) = (lastFor options f.name).getD v := by
      rw [get?_merge h (SettingsField.name_ne_custom plain), standard, Option.getD_or, Option.getD_some]
    calc (lastFor options f.name).getD v = a.general.get f := by
          rw [← value merged, GosuSettings.named_of_accept ha plain,
            named_of_resolve (nodup_merge merged (by decide)) hs plain]
      _ = a'.general.get f := alike.named f plain
      _ = (lastFor (standardOptions.update options) f.name).getD v := by
          rw [← value merged', GosuSettings.named_of_accept ha' plain,
            named_of_resolve (nodup_merge merged' (by decide)) hs' plain]
  -- Layers that are alike lead to the same fault or to settings that are alike.
  · intro ends
    have alike := (resolve_alike (layersAlike_standard distinct ends merged merged')).seq
      fun _ _ h => GosuSettings.accept_alike h
    rcases alike.cases with ⟨fault, e, e'⟩ | ⟨g, g', e, e', same⟩
    · exact absurd ⟨fault, fault, by rw [e]; rfl, by rw [e']; rfl⟩ made
    · rw [e, e']
      exact ⟨_, _, rfl, rfl, same⟩

/-- A setting under its name and then under a further spelling, and another under a further spelling. -/
def sortedOptions : Entries :=
  [("indent_size", .int 6), ("indentWidth", .int 2), ("motto", .str "m"),
    ("generateDocComments", .bool false)]

theorem ways_agree_sorted :
    sortedOptions.keys.Nodup ∧
    Agree (ofOptions (.obj sortedOptions) (some SourceFile.header))
      (ofStandardOptions (.obj sortedOptions)) ∧
    ∃ g, ofStandardOptions (.obj sortedOptions) = .ok g ∧ g.settings.indentSize = 2 := by
  have distinct : sortedOptions.keys.Nodup := by decide
  have ends : EndsRespelled sortedOptions := by
    intro f hf v hv
    simp only [standardFields, List.mem_cons, List.not_mem_nil, or_false] at hf
    rcases hf with rfl | rfl | rfl <;> exact hv
  have agree := (ways_agree_iff distinct Disk.empty).2.mpr (.inr ends)
  obtain ⟨g, made, two⟩ := Outcome.exists_of_any (x := ofStandardOptions (.obj sortedOptions))
    (p := fun g => g.settings.indentSize == 2) (by decide +kernel)
  exact ⟨distinct, agree, g, made, beq_iff_eq.mp two⟩

/-- A setting under a further spelling and then under its name. -/
def crossedOptions : Entries := [("indentWidth", .int 2), ("indent_size", .int 6)]

/-- The name counts, which was given last, except where the standard options stand below: its first place is
kept there. -/
theorem ways_part :
    crossedOptions.keys.Nodup ∧
    (∃ g, ofOptions (.obj crossedOptions) (some SourceFile.header) = .ok g ∧
      g.settings.indentSize = 6) ∧
    ∃ g, ofStandardOptions (.obj crossedOptions) = .ok g ∧ g.settings.indentSize = 2 := by
  obtain ⟨g, made, six⟩ := Outcome.exists_of_any
    (x := ofOptions (.obj crossedOptions) (some SourceFile.header))
    (p := fun g => g.settings.indentSize == 6) (by decide +kernel)
  obtain ⟨g', made', two⟩ := Outcome.exists_of_any (x := ofStandardOptions (.obj crossedOptions))
    (p := fun g => g.settings.indentSize == 2) (by decide +kernel)
  exact ⟨by decide, ⟨g, made, beq_iff_eq.mp six⟩, g', made', beq_iff_eq.mp two⟩

end Generator

end GosuForge
