import GosuForge.Proofs.Association
import GosuForge.Proofs.Journal
import GosuForge.Storage.Memory

/-!
# What a destination in memory holds

Files stand in the order in which they were first written, and each holds what was written to it last.

* `Memory.Reachable`: what a memory comes to hold by its own operations;
* `Memory.Consistent`: no path is there twice, as a directory and a file least of all;
* `Memory.made_again`: steps that have been made can be made again, and change nothing.
-/

namespace GosuForge

/-- The file that a step writes, with its text. -/
def Step.entry? : Step → Option (Path × String)
  | directory _ => none
  | file path content => some (path, content)

namespace Memory

variable {α : Type}

theorem putFile_eq (path : Path) (content : α) (files : List (Path × α)) :
    putFile path content files = Association.put path content files := by
  induction files with
  | nil => rfl
  | cons entry rest ih => rw [putFile, Association.put, ih]

/-! ## One step and many -/

theorem hasFile_iff {m : Memory α} {p : Path} : m.hasFile p = true ↔ p ∈ m.files.map Prod.fst :=
  Association.isSome_lookup

/-- A directory is refused where there is a file; otherwise it is there afterwards. -/
theorem createDirectory_cases (path : Path) (m : Memory α) :
    (path ∈ m.files.map Prod.fst ∧ ∃ cause,
        createDirectory path m = (.error (.destination path .createDirectory cause), m)) ∨
      path ∉ m.files.map Prod.fst ∧ createDirectory path m =
        (.ok (), { m with
          directories := if path ∈ m.directories then m.directories else m.directories ++ [path] }) := by
  rw [createDirectory]
  by_cases hf : path ∈ m.files.map Prod.fst
  · rw [if_pos (hasFile_iff.mpr hf)]
    exact .inl ⟨hf, _, rfl⟩
  · rw [if_neg (mt hasFile_iff.mp hf)]
    refine .inr ⟨hf, ?_⟩
    by_cases hd : path ∈ m.directories
    · simp [hd]
    · simp [hd]

/-- A file is refused where there is a directory; otherwise it has its content afterwards. -/
theorem write_cases (path : Path) (content : α) (m : Memory α) :
    (path ∈ m.directories ∧ ∃ cause,
        write path content m = (.error (.destination path .writeText cause), m)) ∨
      path ∉ m.directories ∧
        write path content m =
          (.ok (), { m with files := Association.put path content m.files }) := by
  rw [write, putFile_eq]
  by_cases hd : path ∈ m.directories
  · rw [if_pos (List.contains_iff_mem.mpr hd)]
    exact .inl ⟨hd, _, rfl⟩
  · rw [if_neg (mt List.contains_iff_mem.mp hd)]
    exact .inr ⟨hd, rfl⟩

/-- Of the files, a memory has what is written to it. -/
theorem files_of_made {steps : List Step} {before after : Memory String}
    (h : Step.Made Memory.storage steps before after) :
    after.files = Association.putAll (steps.filterMap Step.entry?) before.files := by
  induction steps generalizing before with
  | nil =>
    cases h
    rfl
  | cons step rest ih =>
    obtain ⟨next, hn, hm⟩ := h
    rw [ih hm]
    cases step with
    | directory path =>
      rcases createDirectory_cases path before with ⟨-, fault, e⟩ | ⟨-, e⟩
      · cases e.symm.trans hn
      · cases e.symm.trans hn
        rfl
    | file path content =>
      rcases write_cases path content before with ⟨-, fault, e⟩ | ⟨-, e⟩
      · cases e.symm.trans hn
      · cases e.symm.trans hn
        rfl

/-! ## What a memory comes to hold -/

/-- What a memory comes to hold by its own operations, whether they succeed or not. -/
inductive Reachable : Memory α → Prop
  | empty : Reachable empty
  | createDirectory {m : Memory α} (path : Path) : Reachable m →
      Reachable (createDirectory path m).2
  | write {m : Memory α} (path : Path) (content : α) : Reachable m →
      Reachable (write path content m).2

/-- No path is there twice, neither in one of the lists nor in both. -/
structure Consistent (m : Memory α) : Prop where
  directories : m.directories.Nodup
  files : (m.files.map Prod.fst).Nodup
  apart : ∀ p ∈ m.directories, p ∉ m.files.map Prod.fst

theorem Consistent.createDirectory {m : Memory α} (h : m.Consistent) (path : Path) :
    (createDirectory path m).2.Consistent := by
  rcases createDirectory_cases path m with ⟨-, fault, e⟩ | ⟨hf, e⟩
  · rw [e]
    exact h
  · rw [e]
    by_cases hd : path ∈ m.directories
    · simp only [hd, if_true]
      exact h
    · simp only [hd, if_false]
      refine ⟨?_, h.files, ?_⟩
      · rw [← List.concat_eq_append]
        exact List.Nodup.concat hd h.directories
      · intro p hp
        rcases List.mem_append.mp hp with hp | hp
        · exact h.apart p hp
        · rw [List.mem_singleton.mp hp]
          exact hf

theorem Consistent.write {m : Memory α} (h : m.Consistent) (path : Path) (content : α) :
    (write path content m).2.Consistent := by
  rcases write_cases path content m with ⟨-, fault, e⟩ | ⟨hd, e⟩
  · rw [e]
    exact h
  · rw [e]
    refine ⟨h.directories, Association.nodup_keys_put h.files path content, fun p hp hk => ?_⟩
    rcases Association.mem_keys_put.mp hk with rfl | hk
    · exact hd hp
    · exact h.apart p hp hk

theorem Reachable.consistent {m : Memory α} (h : m.Reachable) : m.Consistent := by
  induction h with
  | empty => exact ⟨.nil, .nil, fun p hp => absurd hp List.not_mem_nil⟩
  | createDirectory path _ ih => exact ih.createDirectory path
  | write path content _ ih => exact ih.write path content

/-! ## Making the same steps again -/

/-- A step has been made: its directory or its file is there. -/
def Covers (m : Memory String) : Step → Prop
  | .directory path => path ∈ m.directories
  | .file path _ => path ∈ m.files.map Prod.fst

/-- What is there is there after further steps, and so is what the steps make. -/
theorem covers_of_made {steps : List Step} {before after : Memory String}
    (h : Step.Made Memory.storage steps before after) :
    (∀ p ∈ before.directories, p ∈ after.directories) ∧
      (∀ p ∈ before.files.map Prod.fst, p ∈ after.files.map Prod.fst) ∧
      ∀ step ∈ steps, after.Covers step := by
  induction steps generalizing before with
  | nil =>
    cases h
    exact ⟨fun p hp => hp, fun p hp => hp, fun step hs => absurd hs List.not_mem_nil⟩
  | cons step rest ih =>
    obtain ⟨next, hn, hm⟩ := h
    obtain ⟨directories, files, covered⟩ := ih hm
    suffices (∀ p ∈ before.directories, p ∈ next.directories) ∧
        (∀ p ∈ before.files.map Prod.fst, p ∈ next.files.map Prod.fst) ∧ next.Covers step by
      obtain ⟨hd, hf, hc⟩ := this
      refine ⟨fun p hp => directories p (hd p hp), fun p hp => files p (hf p hp),
        List.forall_mem_cons.mpr ⟨?_, covered⟩⟩
      cases step with
      | directory path => exact directories path hc
      | file path content => exact files path hc
    cases step with
    | directory path =>
      rcases createDirectory_cases path before with ⟨-, fault, e⟩ | ⟨-, e⟩
      · cases e.symm.trans hn
      · cases e.symm.trans hn
        refine ⟨fun p hp => ?_, fun p hp => hp, ?_⟩
        · dsimp only
          split
          · exact hp
          · exact List.mem_append_left _ hp
        · rw [Covers]
          split
          · assumption
          · simp
    | file path content =>
      rcases write_cases path content before with ⟨-, fault, e⟩ | ⟨-, e⟩
      · cases e.symm.trans hn
      · cases e.symm.trans hn
        exact ⟨fun p hp => hp, fun p hp => Association.mem_keys_put.mpr (.inr hp),
          Association.mem_keys_put.mpr (.inl rfl)⟩

theorem Consistent.made {steps : List Step} {before after : Memory String} (h : before.Consistent)
    (hm : Step.Made Memory.storage steps before after) : after.Consistent := by
  induction steps generalizing before with
  | nil =>
    cases hm
    exact h
  | cons step rest ih =>
    obtain ⟨next, hn, hm⟩ := hm
    refine ih ?_ hm
    cases step with
    | directory path =>
      have kept := h.createDirectory path
      rwa [show Memory.createDirectory path before = (.ok (), next) from hn] at kept
    | file path content =>
      have kept := h.write path content
      rwa [show Memory.write path content before = (.ok (), next) from hn] at kept

/-- Steps that have been made can be made, and make no directory anew. -/
theorem made_of_covers {steps : List Step} {m : Memory String} (consistent : m.Consistent)
    (h : ∀ step ∈ steps, m.Covers step) :
    ∃ m', Step.Made Memory.storage steps m m' ∧ m'.directories = m.directories := by
  induction steps generalizing m with
  | nil => exact ⟨m, rfl, rfl⟩
  | cons step rest ih =>
    obtain ⟨hstep, hrest⟩ := List.forall_mem_cons.mp h
    cases step with
    | directory path =>
      rcases createDirectory_cases path m with ⟨hf, -⟩ | ⟨-, e⟩
      · exact absurd hf (consistent.apart path hstep)
      · rw [if_pos (show path ∈ m.directories from hstep)] at e
        obtain ⟨m', hm, directories⟩ := ih consistent hrest
        exact ⟨m', ⟨m, e, hm⟩, directories⟩
    | file path content =>
      rcases write_cases path content m with ⟨hd, -⟩ | ⟨-, e⟩
      · exact absurd hstep (consistent.apart path hd)
      · have consistent' := consistent.write path content
        rw [e] at consistent'
        have covered (step : Step) (hs : step ∈ rest) :
            Covers { m with files := Association.put path content m.files } step := by
          have := hrest step hs
          cases step with
          | directory q => exact this
          | file q text => exact Association.mem_keys_put.mpr (.inr this)
        obtain ⟨m', hm, directories⟩ := ih consistent' covered
        exact ⟨m', ⟨_, e, hm⟩, directories⟩

/-- **The same steps again change nothing**, neither the order nor a content. -/
theorem made_again {steps : List Step} {before after : Memory String}
    (consistent : before.Consistent) (h : Step.Made Memory.storage steps before after) :
    Step.Made Memory.storage steps after after := by
  have consistentAfter := consistent.made h
  obtain ⟨m, hm, directories⟩ := made_of_covers consistentAfter (covers_of_made h).2.2
  have files : m.files = after.files := by
    have once := files_of_made h
    rw [files_of_made hm, once]
    exact Association.putAll_again (once ▸ consistentAfter.files)
  have same : m = after := by
    obtain ⟨directoriesM, filesM⟩ := m
    cases directories
    cases files
    rfl
  exact same ▸ hm

end Memory

end GosuForge
