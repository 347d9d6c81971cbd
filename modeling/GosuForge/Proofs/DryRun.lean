import GosuForge.Proofs.Containment
import GosuForge.Proofs.Disk
import GosuForge.Proofs.Regeneration
import GosuForge.Storage.Listing

/-!
# Runs in memory before runs on disk

* `Plan.isBelow_of_mem_walk`: what a plan makes stands below the directory that it starts in, where
  names are entries of a directory;
* `Memory.Mirrored`: a disk has what a memory has;
* `Memory.Mirrored.step`, `Memory.Mirrored.made`: steps that a disk makes are made in memory too, and
  the disk still has what the memory has;
* `Workbench.dry_run`: a run in memory foretells a run on disk that succeeds.
-/

namespace GosuForge

/-- What stands at the path when a step is made. -/
def Step.node : Step → DiskNode
  | directory _ => .directory
  | file _ content => .file content

/-! ## The steps of a plan -/

/-- In the tree of a root, packages and declarations are called as entries of a directory can be. -/
def Model.HasEntryNames (m : Model) (root : ElementId) : Prop :=
  ∀ id, m.Below root id →
    (m.get id).isPackage = true ∨ (DeclarationForm.of? (m.get id)).isSome = true →
    ∀ name, (m.get id).name = .str name → Path.IsEntryName name

/-- Extensions are part of a file name. -/
structure GosuSettings.HasEntryExtensions (g : GosuSettings) : Prop where
  source : '/' ∉ g.sourceExtension.toList
  enhancement : '/' ∉ g.enhancementExtension.toList

theorem Element.ne_empty_of_isNamed {e : Element} {name : String} (named : e.isNamed = true)
    (h : e.name = .str name) : name ≠ "" := by
  rintro rfl
  rw [isNamed, h] at named
  cases named

/-- What is made for an element is called as an entry of a directory, too. -/
theorem Element.isEntryName_of_outputName? {g : GosuSettings} (extensions : g.HasEntryExtensions)
    {e : Element} (named : e.isNamed = true)
    (entry : e.isPackage = true ∨ (DeclarationForm.of? e).isSome = true →
      ∀ name, e.name = .str name → Path.IsEntryName name)
    {name : String} (h : e.outputName? g = some name) : Path.IsEntryName name ∧ name ≠ "" := by
  by_cases package : e.isPackage = true
  · have text := (outputName?_of_isPackage package).mp h
    exact ⟨entry (.inl package) name text, ne_empty_of_isNamed named text⟩
  · rw [outputName?, if_neg package] at h
    split at h
    · rename_i declared
      rw [SourceFile.fileName] at h
      split at h
      · rename_i text htext
        cases h
        have extension : '/' ∉ (if DeclarationForm.hasStereotype e
            DeclarationForm.enhancementStereotype then g.enhancementExtension
            else g.sourceExtension).toList := by
          split
          · exact extensions.enhancement
          · exact extensions.source
        exact (entry (.inr declared) text htext).append (ne_empty_of_isNamed named htext) extension
      · cases h
    · cases h

theorem Model.HasEntryNames.namesLeadDown {m : Model} {g : GosuSettings} {root : ElementId}
    (names : m.HasEntryNames root) (extensions : g.HasEntryExtensions) :
    m.NamesLeadDown g root where
  down v reached name hname := by
    obtain ⟨entry, filled⟩ := Element.isEntryName_of_outputName? extensions reached.named
      (names v.id reached.below_root) hname
    exact entry.leadsDown filled
  on named name hname := by
    obtain ⟨entry, filled⟩ :=
      Element.isEntryName_of_outputName? extensions named (names root .refl) hname
    rw [entry.parts_eq filled]
    exact List.cons_ne_nil _ _

/-- Whatever is made for an element stands below the directory of its output. -/
theorem Plan.isBelow_of_mem_walk {g : Generator} {r : Repository} {top : Option ElementId} {m : Model}
    {root : ElementId} (plain : m.PlainlyNamed) (names : m.HasEntryNames root)
    (extensions : g.settings.HasEntryExtensions) {fuel : Nat} {directory : Path} {id : ElementId}
    (below : m.Below root id) {planned : PlannedStep}
    (h : planned ∈ walk g r top fuel directory m id) {step : Step} (hs : planned.step = .ok step) :
    step.path.IsBelow directory := by
  have namesBelow : m.HasEntryNames id := fun child hc => names child (below.trans hc)
  exact isBelow_of_namesLeadDown plain (namesBelow.namesLeadDown extensions) h hs

/-! ## A disk that has what a memory has -/

/-- What a disk that makes a step has afterwards: what stands at the path of the step, next to all
that it had below the directory. -/
structure Step.MadeOn (step : Step) (directory : Path) (d d' : Disk) : Prop where
  holds : d'.Holds step.path step.node
  kept : ∀ q, q.IsBelow directory → q ≠ step.path → ∀ node, d.Holds q node → d'.Holds q node
  /-- Nothing of another kind stood in the way. -/
  alike : ∀ node, d.Holds step.path node → (node = .directory ↔ step.node = .directory)

theorem Step.madeOn {step : Step} {directory : Path} {d d' : Disk}
    (below : step.path.IsBelow directory) (h : step.ask Disk.storage d = (.ok (), d')) :
    step.MadeOn directory d d' := by
  have entered {place : Place} {old : Option DiskNode}
      (located : d.locate step.path = .ok (.entry place old)) (free : old ≠ some .directory)
      (hd : d' = d.set place step.node) (file : old = none ∨ step.node ≠ .directory) :
      step.MadeOn directory d d' := by
    subst hd
    refine ⟨Disk.holds_set located free step.node, fun q hq ne node held => ?_, fun node held => ?_⟩
    · exact held.set below hq ne located free step.node
    · obtain ⟨reached, held⟩ := held
      cases located.symm.trans held
      rcases file with file | file
      · cases file
      · exact iff_of_false (fun e => free (congrArg some e)) file
  cases step with
  | directory path =>
    rcases Disk.makeDirectory_eq_ok (Disk.perform_eq_ok h).2 with
      ⟨⟨place, standing⟩, -⟩ | ⟨held, rfl⟩ | ⟨place, located, rfl⟩
    · -- A path below a directory has a last name of its own.
      obtain ⟨_, _, -, -, e⟩ := Disk.locate_of_isBelow below standing
      cases e
    · exact ⟨held, fun _ _ _ _ held => held,
        fun node held' => iff_of_true (held'.unique held) rfl⟩
    · exact entered located nofun rfl (.inl rfl)
  | file path content =>
    obtain ⟨place, old, located, free, rfl⟩ :=
      Disk.writeText_eq_ok.mp (Disk.perform_eq_ok h).2
    exact entered located free rfl (.inr nofun)

namespace Memory

/-- What a memory has stands on the disk, too; all of it is below a directory. -/
structure Mirrored (m : Memory String) (directory : Path) (d : Disk) : Prop where
  directories : ∀ p ∈ m.directories, p.IsBelow directory ∧ d.Holds p .directory
  files : ∀ p content, m.content? p = some content →
    p.IsBelow directory ∧ d.Holds p (.file content)

theorem mem_keys_iff {m : Memory String} {p : Path} :
    p ∈ m.files.map Prod.fst ↔ ∃ content, m.content? p = some content := by
  rw [← hasFile_iff, hasFile, Option.isSome_iff_exists]
  rfl

/-- A step that the disk makes is made in memory, and the disk still has what the memory has. -/
theorem Mirrored.step {m : Memory String} {directory : Path} {d d' : Disk} {step : Step}
    (h : m.Mirrored directory d) (below : step.path.IsBelow directory)
    (asked : step.ask Disk.storage d = (.ok (), d')) :
    ∃ m', step.ask storage m = (.ok (), m') ∧ m'.Mirrored directory d' := by
  obtain ⟨holds, kept, alike⟩ := Step.madeOn below asked
  have keptDirectory (p : Path) (hp : p ∈ m.directories) (ne : p ≠ step.path) :
      p.IsBelow directory ∧ d'.Holds p .directory := by
    obtain ⟨hb, held⟩ := h.directories p hp
    exact ⟨hb, kept p hb ne .directory held⟩
  have keptFile (p : Path) (content : String) (hp : m.content? p = some content)
      (ne : p ≠ step.path) : p.IsBelow directory ∧ d'.Holds p (.file content) := by
    obtain ⟨hb, held⟩ := h.files p content hp
    exact ⟨hb, kept p hb ne (.file content) held⟩
  -- Memory refuses only what is there in another kind, and so would the disk have done.
  cases step with
  | directory path =>
    have apart : path ∉ m.files.map Prod.fst := by
      intro hp
      obtain ⟨content, hp⟩ := mem_keys_iff.mp hp
      cases (alike _ (h.files path content hp).2).mpr rfl
    rcases createDirectory_cases path m with ⟨hp, -⟩ | ⟨-, e⟩
    · exact absurd hp apart
    · refine ⟨_, e, fun p hp => ?_, fun p content hp => ?_⟩
      · by_cases same : p = path
        · subst same
          exact ⟨below, holds⟩
        · refine keptDirectory p ?_ same
          dsimp only at hp
          split at hp
          · exact hp
          · rcases List.mem_append.mp hp with hp | hp
            · exact hp
            · exact absurd (List.mem_singleton.mp hp) same
      · refine keptFile p content hp ?_
        rintro rfl
        exact apart (mem_keys_iff.mpr ⟨content, hp⟩)
  | file path text =>
    have apart : path ∉ m.directories := by
      intro hp
      cases (alike _ (h.directories path hp).2).mp rfl
    rcases write_cases path text m with ⟨hp, -⟩ | ⟨-, e⟩
    · exact absurd hp apart
    · refine ⟨_, e, fun p hp => ?_, fun p content hp => ?_⟩
      · refine keptDirectory p hp ?_
        rintro rfl
        exact apart hp
      · rw [content?, Association.lookup_put] at hp
        split at hp
        · rename_i same
          subst same
          cases hp
          exact ⟨below, holds⟩
        · exact keptFile p content hp ‹_›

/-- Steps that the disk makes one after the other are made in memory. -/
theorem Mirrored.made {m : Memory String} {directory : Path} {d d' : Disk} {steps : List Step}
    (h : m.Mirrored directory d) (below : ∀ step ∈ steps, step.path.IsBelow directory)
    (made : Step.Made Disk.storage steps d d') :
    ∃ m', Step.Made storage steps m m' ∧ m'.Mirrored directory d' := by
  induction steps generalizing m d with
  | nil =>
    cases made
    exact ⟨m, rfl, h⟩
  | cons step rest ih =>
    obtain ⟨first, others⟩ := List.forall_mem_cons.mp below
    obtain ⟨next, asked, made⟩ := made
    obtain ⟨between, askedHere, mirrored⟩ := h.step first asked
    obtain ⟨m', madeHere, mirrored⟩ := ih mirrored others made
    exact ⟨m', ⟨between, askedHere, madeHere⟩, mirrored⟩

end Memory

namespace Workbench

variable {w : Workbench} {d : Design} {root : ElementId} {path : Path}

/-- **A run in memory foretells the run on disk.** Where the names in the tree of a root are entries
of a directory, whatever a disk holds: if a run on it succeeds, then the same run in an empty memory
has the same result, and each file that is reported has the same text in memory and on disk. -/
theorem dry_run (plain : d.model.PlainlyNamed) (names : d.model.HasEntryNames root)
    (extensions : w.generator.settings.HasEntryExtensions) {disk disk' : Disk}
    {result : GenerationResult} {w' : Workbench} {m : Model}
    (h : w.run d root path Disk.storage disk = (result, w', m, disk'))
    (success : result.success = true) :
    ∃ memory, w.run d root path Memory.storage .empty = (result, w', m, memory) ∧
      ∀ p ∈ result.files, ∃ text, memory.content? p = some text ∧ disk'.readText p = .ok text := by
  obtain ⟨ending, made⟩ := made_of_run h success
  have below : ∀ step ∈ (w.plan d root path).calls, step.path.IsBelow path := by
    intro step hs
    obtain ⟨planned, hp, hs⟩ := Plan.exists_of_mem_calls hs
    exact Plan.isBelow_of_mem_walk plain names extensions .refl hp hs
  have mirrored : Memory.empty.Mirrored path disk := ⟨nofun, nofun⟩
  obtain ⟨memory, madeHere, mirrored⟩ := mirrored.made below made
  have real := run_of_made plain ending made
  have dry := run_of_made plain ending madeHere
  rw [h] at real
  cases real
  refine ⟨memory, dry, fun p hp => ?_⟩
  rw [Generator.report_files] at hp
  have written : p ∈ memory.files.map Prod.fst := by
    obtain ⟨step, hs, hp⟩ := List.mem_filterMap.mp hp
    have covered := (Memory.covers_of_made madeHere).2.2 step hs
    cases step with
    | directory q => cases hp
    | file q content =>
      cases hp
      exact covered
  obtain ⟨text, ht⟩ := Memory.mem_keys_iff.mp written
  exact ⟨text, ht, Disk.readText_eq_ok.mpr (mirrored.files p text ht).2⟩

/-! ## In a directory where something stands already -/

/-- A disk with a directory `out`, and in it a file that a run writes anew and another one. -/
def furnished : Disk :=
  Disk.empty.install ["out/shop"] [("out/shop/Cart.gs", "old"), ("out/notes", "kept")]

theorem shop_hasEntryNames : shop.model.HasEntryNames 0 := by
  intro id below _ name hname
  have hid := shop_spans.mem_of_below below
  simp only [List.mem_cons, List.not_mem_nil, or_false] at hid
  rcases hid with rfl | rfl | rfl | rfl | rfl <;> cases hname <;>
    exact ⟨by decide, by decide, by decide⟩

theorem dry_run_shop : ∃ result w' m disk' memory,
    shop.model.PlainlyNamed ∧ shop.model.HasEntryNames 0 ∧
    standard.generator.settings.HasEntryExtensions ∧
    (furnished.readText (.ofString "out/shop/Cart.gs")).toOption = some "old" ∧
    standard.run shop 0 (.ofString "out") Disk.storage furnished = (result, w', m, disk') ∧
    result.success = true ∧
    standard.run shop 0 (.ofString "out") Memory.storage .empty = (result, w', m, memory) ∧
    ∀ p ∈ result.files, ∃ text, memory.content? p = some text ∧ disk'.readText p = .ok text := by
  have extensions : standard.generator.settings.HasEntryExtensions := ⟨by decide, by decide⟩
  have success : (standard.run shop 0 (.ofString "out") Disk.storage furnished).1.success = true := by
    decide +kernel
  rcases h : standard.run shop 0 (.ofString "out") Disk.storage furnished with
    ⟨result, w', m, disk'⟩
  rw [h] at success
  obtain ⟨memory, same, texts⟩ := dry_run shop_plainlyNamed shop_hasEntryNames extensions h success
  exact ⟨result, w', m, disk', memory, shop_plainlyNamed, shop_hasEntryNames, extensions,
    by decide +kernel, rfl, success, same, texts⟩

end Workbench

end GosuForge
