import GosuForge.Proofs.Defaults
import GosuForge.Proofs.Options

/-!
# Settings that are taken over

A generator fills the defaults of Gosu in and keeps what it read from the settings. The order of the
custom settings does not count, neither for what is read nor for what is generated.

* `GosuSettings.Alike`: settings of a generator with equal custom settings in any order;
* `GosuSettings.accept_alike`: settings that differ in what is filled in anyway are refused for the same
  reason, or taken over alike;
* `GosuSettings.Alike.writeAlike`: nothing that a run makes depends on the order.
-/

namespace GosuForge

namespace Value

/-- How deep entries are is found by looking them up. -/
theorem exists_of_lt_nestingOfEntries {entries : Entries} (distinct : entries.keys.Nodup) {n : Nat}
    (h : n < nestingOfEntries entries) : ∃ key v, entries.get? key = some v ∧ n < v.nesting := by
  induction entries with
  | nil => exact absurd h (Nat.not_lt_zero n)
  | cons entry rest ih =>
    obtain ⟨key, v⟩ := entry
    obtain ⟨fresh, distinct⟩ := List.nodup_cons.mp distinct
    rw [nestingOfEntries] at h
    have cases : n < v.nesting ∨ n < nestingOfEntries rest := by omega
    rcases cases with first | later
    · exact ⟨key, v, by rw [Entries.get?_cons, if_pos rfl], first⟩
    · obtain ⟨k, w, found, deep⟩ := ih distinct later
      have other : k ≠ key := by
        rintro rfl
        exact fresh (Entries.mem_keys.mpr ⟨w, found⟩)
      exact ⟨k, w, by rw [Entries.get?_cons, if_neg other, found], deep⟩

end Value

namespace Settings

theorem nesting_le_of_gosuCustom {key : String} {v : Value} (h : gosuCustom.get? key = some v) :
    v.nesting ≤ 1 := by
  have flat : ∀ entry ∈ gosuCustom, entry.2.nesting ≤ 1 := by decide
  exact flat _ (Association.mem_of_lookup h)

/-- Custom settings that are the same once the defaults are filled in are equally deep, as far as it counts:
the defaults are not deep. -/
theorem lt_nestingOfEntries_of_filledIn {c d : Entries} (distinct : c.keys.Nodup)
    (found : ∀ key, filledIn c key = filledIn d key) {n : Nat} (hn : 1 ≤ n)
    (h : n < Value.nestingOfEntries c) : n < Value.nestingOfEntries d := by
  obtain ⟨key, v, hv, deep⟩ := Value.exists_of_lt_nestingOfEntries distinct h
  have filled : (d.get? key).or (gosuCustom.get? key) = some v := by
    have := found key
    rw [filledIn, hv] at this
    exact this.symm
  rcases Option.or_eq_some_iff.mp filled with hd | ⟨-, standard⟩
  · exact deep.trans_le (Value.nesting_le_of_mem_entries (Association.mem_of_lookup hd))
  · have flat := nesting_le_of_gosuCustom standard
    omega

theorem CustomAlike.nesting {v w : Value} (h : CustomAlike v w) :
    GosuSettings.maxNesting < v.nesting ↔ GosuSettings.maxNesting < w.nesting := by
  cases h with
  | other => rfl
  | objects distinct distinct' found =>
    have bound : 1 ≤ GosuSettings.maxNesting - 1 := by decide
    have step (n : Nat) : GosuSettings.maxNesting < n + 1 ↔ GosuSettings.maxNesting - 1 < n := by
      unfold GosuSettings.maxNesting
      omega
    rw [Value.nesting, Value.nesting, step, step]
    exact ⟨lt_nestingOfEntries_of_filledIn distinct found bound,
      lt_nestingOfEntries_of_filledIn distinct' (fun key => (found key).symm) bound⟩

end Settings

namespace GosuSettings

open Settings (filledIn)

/-- Settings that a generator keeps, with custom settings that are equal in any order. -/
structure Alike (g h : GosuSettings) : Prop where
  named : ∀ f : SettingsField, f ≠ .custom → g.general.get f = h.general.get f
  held : g.general.custom = .obj g.custom
  held' : h.general.custom = .obj h.custom
  found : ∀ key, g.custom.get? key = h.custom.get? key
  read : h = { g with general := h.general, custom := h.custom }

/-! ## Filling in and reading -/

theorem get?_foldl_putNew (defaults custom : Entries) (key : String) :
    Entries.get? (defaults.foldl (fun filled entry => filled.putNew entry.1 entry.2) custom) key =
      (custom.get? key).or (defaults.get? key) := by
  induction defaults generalizing custom with
  | nil => exact Option.or_none.symm
  | cons entry rest ih =>
    obtain ⟨k, v⟩ := entry
    rw [List.foldl_cons, ih, Entries.get?_putNew, Entries.get?_cons, Option.or_assoc]
    by_cases h : key = k <;> simp [h]

theorem fillCustom_obj (custom : Entries) :
    ∃ filled, fillCustom (.obj custom) = .ok filled ∧ ∀ key, filled.get? key = filledIn custom key := by
  cases custom with
  | nil => exact ⟨_, rfl, fun _ => rfl⟩
  | cons entry rest => exact ⟨_, rfl, get?_foldl_putNew Settings.gosuCustom (entry :: rest)⟩

section

variable {c d : Entries} (found : ∀ key, c.get? key = d.get? key)

include found

theorem readExtension_congr (key : String) : readExtension c key = readExtension d key := by
  rw [readExtension, readExtension, Entries.getD, Entries.getD, found]

theorem readUses_congr : readUses c = readUses d := by
  rw [readUses, readUses, Entries.getD, Entries.getD, found]

end

theorem fill_alike {s t : Settings} (named : ∀ f : SettingsField, f ≠ .custom → s.get f = t.get f)
    {c d : Entries} (cs : s.custom = .obj c) (ct : t.custom = .obj d)
    (found : ∀ key, filledIn c key = filledIn d key) : Outcome.Alike Alike (fill s) (fill t) := by
  obtain ⟨filled, hf, lookup⟩ := fillCustom_obj c
  obtain ⟨filled', hf', lookup'⟩ := fillCustom_obj d
  have same (key : String) : filled.get? key = filled'.get? key := by
    rw [lookup, lookup', found]
  have indent : readIndent s.indentSize = readIndent t.indentSize :=
    congrArg readIndent (named .indentSize nofun)
  rw [fill, fill, cs, ct, hf, hf']
  show Outcome.Alike Alike (readExtension filled _ >>= _) (readExtension filled' _ >>= _)
  simp only [readExtension_congr same, readUses_congr same, indent]
  refine .bind fun source _ => .bind fun enhancement _ => .bind fun size _ => .bind fun uses _ => ?_
  exact {
    named := fun f hf => by cases f <;> first | exact named _ hf | contradiction
    held := rfl
    held' := rfl
    found := same
    read := by simp only [Entries.getD, same] }

/-- **Settings that differ in what is filled in anyway** are refused for the same reason, or taken over
alike. -/
theorem accept_alike {s t : Settings} (h : s.Alike t) :
    Outcome.Alike Alike (accept s) (accept t) := by
  have nesting : (SettingsField.all.any fun field => decide (maxNesting < (s.get field).nesting)) =
      SettingsField.all.any fun field => decide (maxNesting < (t.get field).nesting) := by
    refine congrArg SettingsField.all.any (funext fun f => decide_eq_decide.mpr ?_)
    by_cases hf : f = .custom
    · subst hf
      exact h.custom.nesting
    · rw [h.named f hf]
  rw [accept, accept, nesting]
  split
  · rfl
  · generalize hv : s.custom = v, hw : t.custom = w
    have alike := h.custom
    rw [hv, hw] at alike
    have filledWith {c d : Entries} (found : ∀ key, filledIn c key = filledIn d key) :
        Outcome.Alike Alike (fill { s with custom := .obj c }) (fill { t with custom := .obj d }) :=
      fill_alike (fun f hf => by cases f <;> first | exact h.named _ hf | contradiction) rfl rfl found
    cases alike with
    | objects _ _ found => exact filledWith found
    | other none => exact .bind fun custom _ => filledWith fun _ => rfl

/-! ## What does not depend on the custom settings -/

/-- The settings with other custom settings. -/
def withCustom (g : GosuSettings) (custom : Entries) : GosuSettings :=
  { g with general := g.general.set (.obj custom) .custom, custom }

theorem Alike.eq_withCustom {g h : GosuSettings} (alike : Alike g h) : h = g.withCustom h.custom := by
  have general : h.general = g.general.set (.obj h.custom) .custom := by
    refine Settings.ext_get fun f => ?_
    rw [Settings.get_set]
    split
    · rename_i custom
      rw [custom]
      exact alike.held'
    · rename_i other
      exact (alike.named f other).symm
  calc h = { g with general := h.general, custom := h.custom } := alike.read
    _ = g.withCustom h.custom := by rw [general]; rfl

/-- What custom settings say is read before anything is written. -/
theorem writeAlike_withCustom (g : GosuSettings) (custom : Entries) :
    g.WriteAlike (g.withCustom custom) where
  scriptFor r form id nested := by cases form <;> rfl
  indentText := rfl
  uses := rfl
  lineEnding := rfl
  sourceExtension := rfl
  enhancementExtension := rfl

/-- Settings with equal custom settings in any order write alike. -/
theorem Alike.writeAlike {g h : GosuSettings} (alike : Alike g h) : g.WriteAlike h := by
  rw [alike.eq_withCustom]
  exact writeAlike_withCustom g h.custom

end GosuSettings

end GosuForge
