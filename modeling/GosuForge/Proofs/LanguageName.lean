import GosuForge.Proofs.Entrances
import GosuForge.Proofs.TakenOver

/-!
# Names of the language

The language of a command may be given under several names, and the settings are put together under the
name that was given. A command does the same under each of them, except that the name is part of the
complaint when the settings are refused.

* `Program.Renamed`: complaints that differ in the name of the language at most;
* `Program.EndsAlike`, `Program.Attempt.Alike`: attempts that answer alike, or fail in the same way, up to
  that name;
* `Program.generate_alike`: the parts of a command under two names;
* `Program.languages_agree`: the defaults of a language are those that a generator fills in.
-/

namespace GosuForge

theorem Dialogue.bind_congr_left {α β : Type} {x y : Dialogue α} {c c' : Console} (h : x c = y c')
    (f : α → Dialogue β) : (x >>= f) c = (y >>= f) c' := by
  show EStateM.bind x f c = EStateM.bind y f c'
  unfold EStateM.bind
  rw [h]

/-- The options of a command for a language. -/
def GenerateOptions.inLanguage (o : GenerateOptions) (l : String) : GenerateOptions :=
  { o with language := some l }

namespace Settings.Alike

variable {s t : Settings} (h : s.Alike t)

include h

theorem signedBy (author : Value) : (s.signedBy author).Alike (t.signedBy author) := by
  have own : s.author = t.author := h.named .author nofun
  rw [Settings.signedBy, Settings.signedBy, own]
  split
  · refine ⟨fun f hf => ?_, h.custom⟩
    rw [get_set, get_set]
    split
    · rfl
    · exact h.named f hf
  · exact h

end Settings.Alike

namespace Program

open Dialogue

/-- One complaint twice, or two that settings are refused for a language under two names of it. -/
inductive Renamed (l l' : String) : Complaint → Complaint → Prop
  | same (k : Complaint) : Renamed l l' k k
  | creation (cause : Fault) :
    Renamed l l' (.generator (.creation l cause)) (.generator (.creation l' cause))

variable {α β : Type} {l l' : String}

/-- Two ends of an attempt on one console, with answers that are related, complaints that differ in the
name of the language at most, or one fault. -/
inductive EndsAlike (l l' : String) (R : α → α → Prop) :
    EStateM.Result Fault Console (Except Complaint α) →
      EStateM.Result Fault Console (Except Complaint α) → Prop
  | answers {a b : α} (h : R a b) (after : Console) :
    EndsAlike l l' R (.ok (.ok a) after) (.ok (.ok b) after)
  | complains {k k' : Complaint} (h : Renamed l l' k k') (after : Console) :
    EndsAlike l l' R (.ok (.error k) after) (.ok (.error k') after)
  | fails (fault : Fault) (after : Console) : EndsAlike l l' R (.error fault after) (.error fault after)

/-- Attempts that end alike on every console. -/
def Attempt.Alike (l l' : String) (R : α → α → Prop) (x y : Attempt α) : Prop :=
  ∀ c, EndsAlike l l' R (x.run c) (y.run c)

namespace Attempt.Alike

variable {R : α → α → Prop} {Q : β → β → Prop} {x y : Attempt α} {f f' : α → Attempt β}

theorem pure {a b : α} (h : R a b) : Attempt.Alike l l' R (Pure.pure a) (Pure.pure b) :=
  fun c => .answers h c

theorem refl (hr : ∀ a, R a a) (x : Attempt α) : Attempt.Alike l l' R x x := by
  intro c
  generalize x.run c = end_
  rcases end_ with ⟨k | a, after⟩ | ⟨fault, after⟩
  · exact .complains (.same k) after
  · exact .answers (hr a) after
  · exact .fails fault after

theorem bind (hx : Attempt.Alike l l' R x y)
    (hf : ∀ a b, R a b → Attempt.Alike l l' Q (f a) (f' b)) :
    Attempt.Alike l l' Q (x >>= f) (y >>= f') := by
  intro c
  generalize ex : x.run c = end_, ey : y.run c = end'
  have ended := hx c
  rw [ex, ey] at ended
  cases ended with
  | answers h after =>
    rw [attempt_of_ok ex, attempt_of_ok ey]
    exact hf _ _ h after
  | complains h after =>
    rw [attempt_of_complaint ex, attempt_of_complaint ey]
    exact .complains h after
  | fails fault after =>
    rw [attempt_of_fault ex, attempt_of_fault ey]
    exact .fails fault after

/-- A step that is the same on both sides. -/
theorem after (x : Attempt α) (hf : ∀ a, Attempt.Alike l l' Q (f a) (f' a)) :
    Attempt.Alike l l' Q (x >>= f) (x >>= f') :=
  bind (R := Eq) (refl (fun _ => rfl) x) fun a _ same => same ▸ hf a

theorem sorted (complaint? : Fault → Option Complaint) {outcome outcome' : Except Fault α}
    (h : Outcome.Alike R outcome outcome') :
    Attempt.Alike l l' R (sorted complaint? outcome) (sorted complaint? outcome') := by
  rcases h.cases with ⟨fault, rfl, rfl⟩ | ⟨a, b, rfl, rfl, hr⟩
  · intro c
    rcases sorted_error_cases complaint? fault c with ⟨k, complained⟩ | failed
    · rw [complained]
      exact .complains (.same k) c
    · rw [failed]
      exact .fails fault c
  · exact pure hr

end Attempt.Alike

/-! ## The parts of a command under two names -/

section

variable (o : GenerateOptions) (l l' : String)

/-- The settings for any two languages differ in what is filled in at most. -/
theorem settingsFor_alike (l : String) (author : Value) :
    Attempt.Alike l "gosu" Settings.Alike (settingsFor (o.inLanguage l) author)
      (settingsFor (o.inLanguage "gosu") author) :=
  .after _ fun disk =>
    (Attempt.Alike.sorted settingsComplaint
      (Settings.forLanguage_alike l (.obj (overrides o))
        ((o.config.filter (· ≠ "")).map Path.ofString) disk)).bind
      fun _ _ h => .pure (h.signedBy author)

/-- Only the folder that settings offer is read when the target is chosen. -/
theorem chooseTarget_congr (loaded : LoadedModel) (root : Option ElementId) {s t : Settings}
    (h : s.Alike t) :
    chooseTarget (o.inLanguage l) loaded root s = chooseTarget (o.inLanguage l') loaded root t := by
  have folder : s.outputDir = t.outputDir := h.named .outputDir nofun
  rw [chooseTarget, chooseTarget, selectTarget_eq, selectTarget_eq, folderFor, folderFor, folder]
  rfl

/-- With settings that write alike the same is shown and made. -/
theorem generateInto_of_writeAlike {g : Generator} {settings : GosuSettings}
    (alike : g.settings.WriteAlike settings) (d : Design) (root : ElementId) (path : Path) :
    generateInto (o.inLanguage l) g d root path =
      generateInto (o.inLanguage l') (g.withSettings settings) d root path := by
  have eq (l : String) (g : Generator) : generateInto (o.inLanguage l) g d root path =
      (do
        tellProgress (d.model.get root)
        if o.isDryRun then
          let outcome := (Workbench.new g).run d root path Memory.storage Memory.empty
          report o outcome.1 (some outcome.2.2.2)
        else
          let disk ← Dialogue.disk
          let outcome := (Workbench.new g).run d root path Disk.storage disk
          setDisk outcome.2.2.2
          report o outcome.1 none) := rfl
  have same {σ : Type} (storage : Storage σ) (state : σ) :=
    Workbench.run_of_writeAlike alike d root path storage state
  rw [eq l g, eq l' (g.withSettings settings)]
  simp only [same]

end

/-- Under a name of the language its generator takes over settings that differ in what is filled in. -/
theorem create_alike (resolved : Registry.bundled.resolve (.str l) = .ok "gosu") {s t : Settings}
    (h : s.Alike t) (disk : Disk) :
    Attempt.Alike l "gosu"
      (fun g g' => ∃ settings, g.settings.WriteAlike settings ∧ g' = g.withSettings settings)
      (sorted generatorComplaint (Registry.bundled.create (.str l) (.ready s) disk))
      (sorted generatorComplaint (Registry.bundled.create (.str "gosu") (.ready t) disk)) := by
  have made (l : String) (s : Settings) :
      ((SettingsSource.ready s).settings "gosu" disk >>= GeneratorKind.gosu.make).mapError
        (Fault.creation l) =
      ((GosuSettings.accept s).map fun g => ⟨"gosu", g, some SourceFile.header⟩).mapError
        (Fault.creation l) := by
    show (GosuSettings.accept s >>= _).mapError _ = _
    cases GosuSettings.accept s <;> rfl
  rw [Registry.create_of_resolve resolved, Registry.create_gosu, made, made]
  rcases (GosuSettings.accept_alike h).cases with ⟨fault, e, e'⟩ | ⟨g, g', e, e', alike⟩
  · rw [e, e']
    exact fun c => .complains (.creation fault) c
  · rw [e, e']
    exact .pure ⟨g', alike.writeAlike, rfl⟩

theorem generate_alike (o : GenerateOptions)
    (resolved : Registry.bundled.resolve (.str l) = .ok "gosu") :
    Attempt.Alike l "gosu" Eq (generate (o.inLanguage l)) (generate (o.inLanguage "gosu")) := by
  rw [generate_eq, generate_eq]
  refine .after _ fun disk => .after _ fun loaded => ?_
  refine (settingsFor_alike o l loaded.author).bind fun s t h => .after _ fun root => ?_
  rw [chooseTarget_congr o l "gosu" loaded root h]
  refine .after _ fun chosen => ?_
  rcases chosen with reason | ⟨id, path⟩
  · exact .refl (fun _ => rfl) _
  · dsimp only
    rw [generateTo_eq, generateTo_eq]
    refine .after _ fun disk => .after _ fun isThere => ?_
    split
    · exact .refl (fun _ => rfl) _
    · refine (create_alike resolved h disk).bind fun g g' same => ?_
      obtain ⟨settings, alike, rfl⟩ := same
      rw [generateInto_of_writeAlike o l "gosu" alike]
      exact .refl (fun _ => rfl) _

/-! ## The program under two names -/

/-- How the program ends with a complaint. -/
def complained (isBrief : Bool) (k : Complaint) : Dialogue Ending := do
  print ("[red]✗ Error:[/red] " ++ k.message isBrief)
  pure (.returned 1)

section

variable (isBrief : Bool) {args args' : List String} {command command' : Command} {c : Console}

theorem run_congr (h : Command.ofArguments args = .ok command)
    (h' : Command.ofArguments args' = .ok command')
    (same : (perform command).run c = (perform command').run c) :
    run isBrief args c = run isBrief args' c := by
  have performed : performed command c = performed command' c := by
    rw [Program.performed, Program.performed, tryCatch_apply, tryCatch_apply, same]
  rw [run_of_command isBrief h, run_of_command isBrief h']
  exact bind_congr_left (bind_congr_left performed _) _

theorem run_of_complaint (h : Command.ofArguments args = .ok command) {k : Complaint}
    {after : Console} (complains : (perform command).run c = .ok (.error k) after) :
    run isBrief args c = complained isBrief k after := by
  have performed : performed command c = .ok (.error k) after := by
    rw [Program.performed, tryCatch_apply, complains]
  have told : performOrComplain isBrief command c =
      (print ("[red]✗ Error:[/red] " ++ k.message isBrief) >>= fun _ => pure 1) after := by
    rw [performOrComplain_eq, bind_of_ok performed]
  rw [run_of_command isBrief h, bind_congr_left told, bind_assoc]
  rfl

end

/-- **The defaults of a language are those that a generator fills in.** Whatever the overrides and the file
are, settings for any language are refused by the generator for the reason for which those for Gosu are,
or they are taken over alike. So a command does the same under each name of the language, up to the name
in the complaint that the settings are refused. -/
theorem languages_agree (l : String) :
    (∀ (overrides : Value) (file : Option Path) (disk : Disk),
      Outcome.Alike GosuSettings.Alike
        (Settings.forLanguage (.str l) overrides file disk >>= GosuSettings.accept)
        (Settings.forLanguage (.str "gosu") overrides file disk >>= GosuSettings.accept)) ∧
    (Registry.bundled.resolve (.str l) = .ok "gosu" →
      ∀ (isBrief : Bool) (o : GenerateOptions) (args args' : List String),
        Command.ofArguments args = .ok (.generate (o.inLanguage l)) →
        Command.ofArguments args' = .ok (.generate (o.inLanguage "gosu")) → ∀ c,
          run isBrief args c = run isBrief args' c ∨
            ∃ cause after,
              run isBrief args c = complained isBrief (.generator (.creation l cause)) after ∧
              run isBrief args' c =
                complained isBrief (.generator (.creation "gosu" cause)) after) := by
  constructor
  · intro overrides file disk
    exact (Settings.forLanguage_alike l overrides file disk).seq fun _ _ h =>
      GosuSettings.accept_alike h
  · intro resolved isBrief o args args' named named' c
    generalize ex : (generate (o.inLanguage l)).run c = end_,
      ey : (generate (o.inLanguage "gosu")).run c = end'
    have ended := generate_alike o resolved c
    rw [ex, ey] at ended
    have same (e : end_ = end') : run isBrief args c = run isBrief args' c :=
      run_congr isBrief named named' (ex.trans (e.trans ey.symm))
    cases ended with
    | answers h after => exact .inl (same (by rw [h]))
    | fails fault after => exact .inl (same rfl)
    | complains h after =>
      cases h with
      | same k => exact .inl (same rfl)
      | creation cause =>
        exact .inr ⟨cause, after, run_of_complaint isBrief named ex,
          run_of_complaint isBrief named' ey⟩

/-- The arguments of a command that names the language. -/
def namingArguments (l : String) : List String :=
  ["generate", "m.json", "-l", l, "--tabs", "--root", "A", "-o", "out"]

def namingOptions : GenerateOptions where
  model := "m.json"
  output := some "out"
  root := some "A"
  language := none
  config := none
  withoutDocs := false
  useTabs := true
  indent := none
  author := none
  isDryRun := false
  isVerbose := false

/-- Custom settings of which one has a default. -/
def bareOverrides : Value := .obj [("indentWidth", .int 2), ("custom", .obj [("uses", .arr [])])]

/-- The settings are taken over with the same custom settings in another order. -/
theorem languages_agree_capital :
    (∃ g g', (Settings.forLanguage (.str "GS") bareOverrides none Disk.empty >>=
        GosuSettings.accept) = .ok g ∧
      (Settings.forLanguage (.str "gosu") bareOverrides none Disk.empty >>= GosuSettings.accept) =
        .ok g' ∧ g.Alike g' ∧ g.custom.keys.head? = some "uses" ∧
      g'.custom.keys.head? = some "source_extension") ∧
    Registry.bundled.resolve (.str "GS") = .ok "gosu" ∧
    Command.ofArguments (namingArguments "GS") = .ok (.generate (namingOptions.inLanguage "GS")) ∧
    Command.ofArguments (namingArguments "gosu") =
      .ok (.generate (namingOptions.inLanguage "gosu")) ∧
    (run false (namingArguments "GS") (drafting signedText) =
        run false (namingArguments "gosu") (drafting signedText) ∨
      ∃ cause after,
        run false (namingArguments "GS") (drafting signedText) =
          complained false (.generator (.creation "GS" cause)) after ∧
        run false (namingArguments "gosu") (drafting signedText) =
          complained false (.generator (.creation "gosu" cause)) after) := by
  obtain ⟨settings, commands⟩ := languages_agree "GS"
  have lower : Text.lower "GS" = "gs" := by decide +kernel
  have resolved : Registry.bundled.resolve (.str "GS") = .ok "gosu" := by
    rw [Registry.resolve, Registry.keyOf, lower]
    rfl
  have named : Command.ofArguments (namingArguments "GS") =
      .ok (.generate (namingOptions.inLanguage "GS")) := rfl
  have named' : Command.ofArguments (namingArguments "gosu") =
      .ok (.generate (namingOptions.inLanguage "gosu")) := rfl
  obtain ⟨g, accepted, first⟩ := Outcome.exists_of_any
    (x := Settings.forLanguage (.str "GS") bareOverrides none Disk.empty >>= GosuSettings.accept)
    (p := fun g => g.custom.keys.head? == some "uses") (by decide +kernel)
  obtain ⟨g', accepted', first'⟩ := Outcome.exists_of_any
    (x := Settings.forLanguage (.str "gosu") bareOverrides none Disk.empty >>= GosuSettings.accept)
    (p := fun g => g.custom.keys.head? == some "source_extension") (by decide +kernel)
  have alike := settings bareOverrides none Disk.empty
  rw [accepted, accepted'] at alike
  exact ⟨⟨g, g', accepted, accepted', alike, beq_iff_eq.mp first, beq_iff_eq.mp first'⟩, resolved,
    named, named', commands resolved false namingOptions _ _ named named' (drafting signedText)⟩

end Program

end GosuForge
