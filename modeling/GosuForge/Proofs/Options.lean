import GosuForge.Generation.Request
import GosuForge.Proofs.Author
import GosuForge.Proofs.Flags
import GosuForge.Proofs.Precedence

/-!
# Options of a run

A command and the library put the settings of a run together in different ways. The author of a model
file counts after the settings are resolved or before, and the settings are ready or still options.

* `Settings.combine_named`: options by the names of settings on top of the defaults;
* `Command.StandsFor.combine_agree`: flags and their options give the same settings, up to an author
  without a name;
* `Request.generate_ready`: with either of them the same is generated.
-/

namespace GosuForge

namespace Settings

open SettingsField

/-- Options by the names of settings are put on top of the defaults. -/
theorem combine_named {entries : Entries} (distinct : entries.keys.Nodup)
    (named : ∀ key ∈ entries.keys, ∃ f : SettingsField, f ≠ .custom ∧ f.name = key) :
    ∃ s, combine (.str "gosu") (.obj entries) [] = .ok s ∧ s.custom = .obj gosuCustom ∧
      s.author = entries.getD "author" .null ∧ ∀ f : SettingsField, f ≠ .custom →
        s.get f = ((entries.get? f.name).or (gosuBase.get? f.name)).getD (default.get f) := by
  have base : gosuBase.get? "custom" = some (.obj gosuCustom) := rfl
  obtain ⟨layer, merged, spec⟩ := merge_eq_ok distinct base
  have unspelled : ∀ key ∈ entries.keys, key ∉ spelled := by
    intro key hk
    obtain ⟨f, -, rfl⟩ := named key hk
    exact name_not_spelled f
  have absent : entries.get? "custom" = none := by
    refine Entries.get?_eq_none fun hk => ?_
    obtain ⟨f, hf, e⟩ := named _ hk
    exact name_ne_custom hf e
  have customLayer : layer.get? "custom" = some (.obj gosuCustom) := by
    rw [spec.custom, absent]
    exact base
  have none : further layer = [] := by
    refine List.eq_nil_iff_forall_not_mem.mpr fun entry he => ?_
    obtain ⟨unnamed, hk⟩ := mem_keys_further.mp (List.mem_map_of_mem he)
    rcases (spec.mem_keys _).mp hk with hk | ⟨key, hk, e⟩
    · exact unnamed (gosuBase_named _ hk)
    · obtain ⟨f, -, rfl⟩ := named key hk
      rcases canonical_cases f.name with ⟨spelt, -⟩ | ⟨-, same⟩
      · exact name_not_spelled f spelt
      · rw [← e, same] at unnamed
        exact unnamed (name_mem f)
  obtain ⟨s, resolved, hc, fields⟩ := resolve_of_object (spec.nodup (by decide)) customLayer
  have field (f : SettingsField) (hf : f ≠ .custom) :
      s.get f = ((entries.get? f.name).or (gosuBase.get? f.name)).getD (default.get f) := by
    rw [fields f hf, spec.get?_eq unspelled f.name (name_ne_custom hf)]
  refine ⟨s, ?_, ?_, ?_, field⟩
  · rw [combine, base_gosu, overrideEntries_obj]
    show merge gosuBase entries >>= _ = _
    rw [merged]
    exact resolved
  · rw [hc, none]
    rfl
  · have author : s.author = _ := field .author (by decide)
    rw [author]
    exact congrArg (Option.getD · Value.null) Option.or_none

/-- The author of a model counts unless the settings name one. -/
def signedBy (s : Settings) (author : Value) : Settings :=
  if !s.author.truthy && author.truthy then s.set author .author else s

theorem ext_get {s t : Settings} (h : ∀ f, s.get f = t.get f) : s = t := by
  have outputDir : s.outputDir = t.outputDir := h .outputDir
  have indentSize : s.indentSize = t.indentSize := h .indentSize
  have useTabs : s.useTabs = t.useTabs := h .useTabs
  have lineEnding : s.lineEnding = t.lineEnding := h .lineEnding
  have docComments : s.docComments = t.docComments := h .docComments
  have author : s.author = t.author := h .author
  have custom : s.custom = t.custom := h .custom
  cases s
  cases t
  simp_all

theorem set_self (s : Settings) (f : SettingsField) : s.set (s.get f) f = s := by
  cases f <;> rfl

/-- The settings agree, or name no author on one side and one without a name on the other. -/
def AgreeOrBlank (s t : Settings) : Prop :=
  t = s ∨ s.author = .null ∧ t = s.set (.str "") .author

/-- An author counts as given, or there is none, or one without a name. -/
def IsAuthor (own : Value) : Prop := own.truthy = true ∨ own = .null ∨ own = .str ""

/-- Whichever of the settings and the model names an author first. -/
theorem agreeOrBlank_signedBy {s : Settings} {own : Value} (given : IsAuthor own)
    (hs : s.author = if own.truthy then own else .null) (author : Value) :
    AgreeOrBlank (s.signedBy author)
      (s.set (if author.truthy && !own.truthy then author else own) .author) := by
  by_cases counts : own.truthy = true
  · have kept : s.author = own := by rw [hs, if_pos counts]
    left
    rw [signedBy, kept, counts, Bool.not_true, Bool.and_false, ← kept]
    exact set_self s .author
  · have absent : s.author = .null := by rw [hs, if_neg counts]
    have blank : own.truthy = false := by simpa using counts
    rw [signedBy, absent, blank]
    by_cases named : author.truthy = true
    · left
      rw [named]
      rfl
    · have unnamed : author.truthy = false := by simpa using named
      rw [unnamed]
      rcases given with counted | rfl | rfl
      · exact absurd counted counts
      · left
        show s.set .null .author = s
        rw [← absent]
        exact set_self s .author
      · exact .inr ⟨absent, rfl⟩

end Settings

namespace Request

/-- Whether the author of a model counts. -/
def takesAuthor (options : Entries) (author : Value) : Bool :=
  author.truthy && !(options.getD "author" .null).truthy

theorem get?_withAuthor (options : Entries) (author : Value) (k : String) :
    (withAuthor options author).get? k =
      if takesAuthor options author ∧ k = "author" then some author else options.get? k := by
  unfold withAuthor takesAuthor
  split
  · rename_i takes
    rw [Entries.get?_put]
    simp only [takes, true_and]
  · rename_i keeps
    rw [if_neg (fun h => keeps h.1)]

theorem mem_keys_withAuthor {options : Entries} {author : Value} {k : String}
    (h : k ∈ (withAuthor options author).keys) : k = "author" ∨ k ∈ options.keys := by
  unfold withAuthor at h
  split at h
  · exact Entries.mem_keys_put.mp h
  · exact .inr h

theorem nodup_keys_withAuthor {options : Entries} (h : options.keys.Nodup) (author : Value) :
    (withAuthor options author).keys.Nodup := by
  unfold withAuthor
  split
  · exact Entries.nodup_keys_put h _ _
  · exact h

end Request

namespace Command

/-- The author that flags name, if they name one at all. -/
theorem StandsFor.isAuthor {given options : Entries} (h : StandsFor given options) :
    Settings.IsAuthor (options.getD "author" .null) := by
  rw [Entries.getD]
  cases e : options.get? "author" with
  | none => exact .inr (.inl rfl)
  | some v =>
    obtain ⟨name, rfl⟩ := h.text v (h.author ▸ e)
    by_cases empty : name = ""
    · exact .inr (.inr (congrArg Value.str empty))
    · exact .inl (by simpa [Value.truthy] using empty)

open Settings in
/-- **Flags and the options that they stand for give the same settings**, where the author of a model
counts after the flags are put together and before the options are. -/
theorem StandsFor.combine_agree {given options : Entries} (h : StandsFor given options)
    (file : List String) (author : Value) :
    ∃ s t,
      combine (.str "gosu") (.obj (Program.overrides (generateOptions ⟨given, some file, []⟩))) [] =
        .ok s ∧
      combine (.str "gosu") (.obj (Request.withAuthor options author)) [] = .ok t ∧
      AgreeOrBlank (s.signedBy author) t := by
  obtain ⟨s, hs, customS, namedS, fieldsS⟩ :=
    combine_named (Program.nodup_keys_overrides (generateOptions ⟨given, some file, []⟩))
      fun key hk => field_of_optionName (Program.mem_optionNames_of_overrides hk)
  obtain ⟨t, ht, customT, namedT, fieldsT⟩ :=
    combine_named (Request.nodup_keys_withAuthor h.distinct author) fun key hk => by
      rcases Request.mem_keys_withAuthor hk with rfl | hk
      · exact ⟨.author, nofun, rfl⟩
      · exact field_of_optionName (h.named key hk)
  have authorS : s.author =
      if (options.getD "author" .null).truthy then options.getD "author" .null else .null := by
    rw [namedS, Entries.getD, Program.get?_overrides_of_standsFor h, if_pos rfl, Entries.getD]
    cases options.get? "author" with
    | none => rfl
    | some v => cases counts : v.truthy <;> simp [Option.filter, counts]
  have authorT : t.author = if author.truthy && !(options.getD "author" .null).truthy then author
      else options.getD "author" .null := by
    rw [namedT, Entries.getD, Request.get?_withAuthor, Request.takesAuthor]
    cases author.truthy && !(options.getD "author" .null).truthy <;> rfl
  -- The settings differ in their authors at most.
  have others : t = s.set t.author .author := by
    refine ext_get fun f => ?_
    rw [get_set]
    by_cases author : f = .author
    · rw [if_pos author, author]
      rfl
    · rw [if_neg author]
      by_cases custom : f = .custom
      · rw [custom]
        exact customT.trans customS.symm
      · have name : f.name ≠ "author" := by
          cases f <;> first | contradiction | decide
        rw [fieldsS f custom, fieldsT f custom, Program.get?_overrides_of_standsFor h,
          Request.get?_withAuthor, if_neg name, if_neg fun both => name both.2]
  refine ⟨s, t, hs, ht, ?_⟩
  rw [others, authorT]
  exact agreeOrBlank_signedBy h.isAuthor authorS author

end Command

/-! ## Generators -/

namespace GosuSettings

/-- Settings are filled in whoever their author is. -/
theorem fill_author (s : Settings) (author : Value) :
    fill (s.set author .author) = (fill s).map fun g => g.signed author := by
  rw [fill, fill]
  simp only [Outcome.map_bind]
  rfl

/-- An author without a name is taken over like any other. -/
theorem accept_blank {s : Settings} (absent : s.author = .null) :
    accept (s.set (.str "") .author) = (accept s).map fun g => g.signed (.str "") := by
  have nesting (f : SettingsField) : ((s.set (.str "") .author).get f).nesting = (s.get f).nesting := by
    rw [Settings.get_set]
    split
    · rename_i author
      subst author
      rw [show s.get .author = .null from absent]
      rfl
    · rfl
  simp only [accept, nesting]
  split
  · rfl
  · show s.custom.asEntries >>= _ = _
    cases s.custom.asEntries with
    | error fault => rfl
    | ok custom =>
      show fill { s.set (.str "") .author with custom := .obj custom } =
        (fill { s with custom := .obj custom }).map _
      exact fill_author { s with custom := .obj custom } (.str "")

/-- Only the custom settings are filled in. -/
theorem named_of_accept {s : Settings} {g : GosuSettings} (h : accept s = .ok g)
    {f : SettingsField} (hf : f ≠ .custom) : g.general.get f = s.get f := by
  rw [accept] at h
  split at h
  · cases h
  · obtain ⟨custom, -, h⟩ := Outcome.bind_eq_ok.mp h
    obtain ⟨filled, -, h⟩ := Outcome.bind_eq_ok.mp h
    obtain ⟨source, -, h⟩ := Outcome.bind_eq_ok.mp h
    obtain ⟨enhancement, -, h⟩ := Outcome.bind_eq_ok.mp h
    obtain ⟨indent, -, h⟩ := Outcome.bind_eq_ok.mp h
    obtain ⟨uses, -, h⟩ := Outcome.bind_eq_ok.mp h
    cases h
    cases f <;> first | rfl | contradiction

end GosuSettings

namespace GeneratorKind

theorem make_blank {s : Settings} (absent : s.author = .null) :
    gosu.make (s.set (.str "") .author) = (gosu.make s).map fun g => g.signed (.str "") := by
  show GosuSettings.accept (s.set (.str "") .author) >>= _ = (GosuSettings.accept s >>= _).map _
  rw [GosuSettings.accept_blank absent]
  cases GosuSettings.accept s <;> rfl

theorem author_of_make {s : Settings} {g : Generator} (h : gosu.make s = .ok g) :
    g.settings.general.author = s.author := by
  obtain ⟨settings, accepted, h⟩ := Outcome.bind_eq_ok.mp h
  cases h
  exact GosuSettings.named_of_accept (f := .author) accepted nofun

end GeneratorKind

namespace Registry

/-- Under each name of the language the same generator is made; only what goes wrong is put down to the
name. -/
theorem create_of_resolve {l : String} (resolved : bundled.resolve (.str l) = .ok "gosu")
    (source : SettingsSource) (disk : Disk) :
    bundled.create (.str l) source disk =
      (source.settings "gosu" disk >>= GeneratorKind.gosu.make).mapError (.creation l) := by
  rw [create, resolved]
  rfl

theorem resolve_gosu : bundled.resolve (.str "gosu") = .ok "gosu" := by
  have lower : Text.lower "gosu" = "gosu" := by decide +kernel
  rw [resolve, keyOf, lower]
  rfl

theorem create_gosu (source : SettingsSource) (disk : Disk) :
    bundled.create (.str "gosu") source disk =
      (source.settings "gosu" disk >>= GeneratorKind.gosu.make).mapError (.creation "gosu") :=
  create_of_resolve resolve_gosu source disk

end Registry

namespace Request

variable {σ : Type}

/-- The result of a run with a generator, and what it leaves behind. -/
def produced (g : Generator) (d : Design) (root : ElementId) (path : Path) (storage : Storage σ)
    (state : σ) : GenerationResult × σ :=
  let outcome := (Workbench.new g).run d root path storage state
  (outcome.1, outcome.2.2.2)

theorem generate_eq (language : Value) (source : SettingsSource) (d : Design) (root : ElementId)
    (path : Path) (storage : Storage σ) (disk : Disk) (state : σ) :
    generate language source d root path storage disk state =
      (Registry.bundled.create language source disk).map fun g =>
        produced g d root path storage state := by
  rw [generate]
  cases Registry.bundled.create language source disk <;> rfl

/-- **Ready settings generate what options generate** that give these settings, up to an author without
a name. -/
theorem generate_ready {s t : Settings} {entries : Entries} (agree : s.AgreeOrBlank t)
    (combined : Settings.combine (.str "gosu") (.obj entries) [] = .ok t) (d : Design)
    (root : ElementId) (path : Path) (storage : Storage σ) (disk : Disk) (state : σ) :
    generate (.str "gosu") (.overrides entries) d root path storage disk state =
      generate (.str "gosu") (.ready s) d root path storage disk state := by
  have options : Registry.bundled.create (.str "gosu") (.overrides entries) disk =
      (GeneratorKind.gosu.make t).mapError (.creation "gosu") := by
    have resolved : (SettingsSource.overrides entries).settings "gosu" disk = .ok t := combined
    rw [Registry.create_gosu, resolved]
    rfl
  have ready : Registry.bundled.create (.str "gosu") (.ready s) disk =
      (GeneratorKind.gosu.make s).mapError (.creation "gosu") := Registry.create_gosu _ _
  rw [generate_eq, generate_eq, options, ready]
  rcases agree with rfl | ⟨absent, rfl⟩
  · rfl
  · rw [GeneratorKind.make_blank absent]
    cases made : GeneratorKind.gosu.make s with
    | error fault => rfl
    | ok g =>
      have unsigned : g.settings.general.author.truthy = false := by
        rw [GeneratorKind.author_of_make made, absent]
        rfl
      have blank : (Value.str "").truthy = false := rfl
      have same := Workbench.run_signed blank unsigned d root path storage state
      exact congrArg Except.ok (Prod.ext same.1 same.2)

end Request

end GosuForge
