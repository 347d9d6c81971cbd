import GosuForge.Proofs.Memory
import GosuForge.Proofs.NormalPath

/-!
# Histories of a memory

A memory takes calls one after the other, each with a path in any spelling. A call at a path where
one of the other kind has succeeded is refused and changes nothing; every other call succeeds.

* `MemoryCall`, `Memory.after`, `Memory.successes`: calls, the memory after a history of them, and
  the calls of the history that succeed;
* `MemoryCall.perform_cases`: a call is refused and changes nothing, or it is carried out;
* `MemoryCall.firstPaths`, `MemoryCall.lastContent?`: the paths of some calls in the order in which
  they first occur, and what is written to a path last;
* `Memory.Recalls`: what a memory holds of calls that succeeded, `Memory.recalls_after`;
* `Memory.Recalls.barred_iff`: what stands in the way of a further call;
* `Memory.holds_history`: what a memory holds after every history.
-/

namespace GosuForge

/-- A call on a memory. -/
inductive MemoryCall (α : Type)
  | createDirectory (place : PathSpelling)
  | write (place : PathSpelling) (content : α)

namespace MemoryCall

variable {α : Type}

def place : MemoryCall α → PathSpelling
  | createDirectory place => place
  | write place _ => place

def operation : MemoryCall α → StorageOperation
  | createDirectory _ => .createDirectory
  | write _ _ => .writeText

/-- What a memory answers to a call, and the memory after it. -/
def perform (call : MemoryCall α) (m : Memory α) : Except Fault Unit × Memory α :=
  match call with
  | createDirectory place => m.createDirectory place.read
  | write place content => m.write place.read content

/-- The paths of the calls of one kind, in the order in which they first occur. -/
def firstPaths (operation : StorageOperation) (calls : List (MemoryCall α)) : List Path :=
  (calls.filterMap fun call =>
    if call.operation = operation then some call.place.read else none).eraseDups

/-- What a call writes to a path, however the path is spelled. -/
def contentAt? (place : PathSpelling) : MemoryCall α → Option α
  | createDirectory _ => none
  | write other content => if other.normal = place.normal then some content else none

/-- What the last of some calls that write to a path writes there. -/
def lastContent? (calls : List (MemoryCall α)) (place : PathSpelling) : Option α :=
  calls.reverse.findSome? (contentAt? place)

/-- Something of the other kind stands at the path of a call. -/
def Barred (m : Memory α) : MemoryCall α → Prop
  | createDirectory place => place.read ∈ m.files.map Prod.fst
  | write place _ => place.read ∈ m.directories

/-- The memory after a call that succeeds. -/
def carriedOut (m : Memory α) : MemoryCall α → Memory α
  | createDirectory place =>
    { m with directories :=
        if place.read ∈ m.directories then m.directories else m.directories ++ [place.read] }
  | write place content => { m with files := Association.put place.read content m.files }

/-- One of some calls is of the other kind, at the same path. -/
def Clashes (call : MemoryCall α) (calls : List (MemoryCall α)) : Prop :=
  ∃ earlier ∈ calls, earlier.place.normal = call.place.normal ∧ earlier.operation ≠ call.operation

/-- A call is refused and changes nothing where something of the other kind stands; otherwise it is
carried out. -/
theorem perform_cases (m : Memory α) (call : MemoryCall α) :
    call.Barred m ∧ (∃ cause,
        call.perform m = (.error (.destination call.place.read call.operation cause), m)) ∨
      ¬ call.Barred m ∧ call.perform m = (.ok (), call.carriedOut m) := by
  cases call with
  | createDirectory place => exact Memory.createDirectory_cases place.read m
  | write place content => exact Memory.write_cases place.read content m

theorem lastContent?_concat (calls : List (MemoryCall α)) (call : MemoryCall α)
    (place : PathSpelling) :
    lastContent? (calls ++ [call]) place =
      (call.contentAt? place).or (lastContent? calls place) := by
  rw [lastContent?, List.reverse_concat, List.findSome?_cons, lastContent?]
  cases call.contentAt? place <;> rfl

theorem mem_firstPaths {operation : StorageOperation} {calls : List (MemoryCall α)}
    {place : PathSpelling} :
    place.read ∈ firstPaths operation calls ↔
      ∃ call ∈ calls, call.place.normal = place.normal ∧ call.operation = operation := by
  rw [firstPaths, List.mem_eraseDups, List.mem_filterMap]
  refine exists_congr fun call => and_congr_right fun _ => ?_
  rw [← PathSpelling.read_eq_iff]
  by_cases h : call.operation = operation <;> simp [h]

theorem firstPaths_concat_other {operation : StorageOperation} {call : MemoryCall α}
    (h : call.operation ≠ operation) (calls : List (MemoryCall α)) :
    firstPaths operation (calls ++ [call]) = firstPaths operation calls := by
  simp [firstPaths, h]

/-- The path of a further call stands last, unless it is there already. -/
theorem firstPaths_concat (calls : List (MemoryCall α)) (call : MemoryCall α) :
    firstPaths call.operation (calls ++ [call]) =
      if call.place.read ∈ firstPaths call.operation calls then firstPaths call.operation calls
      else firstPaths call.operation calls ++ [call.place.read] := by
  have one : [call.place.read].eraseDups = [call.place.read] := rfl
  rw [firstPaths, List.filterMap_append, List.eraseDups_append, firstPaths]
  generalize calls.filterMap _ = paths
  by_cases h : call.place.read ∈ paths
  · simp [List.removeAll, h]
  · simp [List.removeAll, h, one]

end MemoryCall

namespace Memory

open MemoryCall

variable {α : Type}

/-- The memory after calls, one after the other. -/
def after (m : Memory α) (calls : List (MemoryCall α)) : Memory α :=
  calls.foldl (fun m call => (call.perform m).2) m

/-- The calls that succeed, each made where those before it lead. -/
def successes (m : Memory α) : List (MemoryCall α) → List (MemoryCall α)
  | [] => []
  | call :: rest =>
    match call.perform m with
    | (.ok _, next) => call :: successes next rest
    | (.error _, next) => successes next rest

/-! ## What a memory recalls -/

/-- What a memory holds of calls that succeeded: the paths in the order in which they were first
made or written, and for each file what was written last. -/
structure Recalls (m : Memory α) (made : List (MemoryCall α)) : Prop where
  directories : m.directories = firstPaths .createDirectory made
  files : m.files.map Prod.fst = firstPaths .writeText made
  contents : ∀ place : PathSpelling, m.content? place.read = lastContent? made place

theorem recalls_empty : (empty : Memory α).Recalls [] where
  directories := rfl
  files := rfl
  contents _ := rfl

namespace Recalls

variable {m : Memory α} {made : List (MemoryCall α)}

/-- What stands in the way of a call is a call that clashes with it. -/
theorem barred_iff (h : m.Recalls made) (call : MemoryCall α) :
    call.Barred m ↔ call.Clashes made := by
  cases call with
  | createDirectory place =>
    rw [Barred, h.files, mem_firstPaths]
    refine exists_congr fun earlier => and_congr_right fun _ => and_congr_right fun _ => ?_
    cases earlier <;> simp [operation]
  | write place content =>
    rw [Barred, h.directories, mem_firstPaths]
    refine exists_congr fun earlier => and_congr_right fun _ => and_congr_right fun _ => ?_
    cases earlier <;> simp [operation]

theorem createDirectory (h : m.Recalls made) (place : PathSpelling) :
    Recalls ((MemoryCall.createDirectory place).carriedOut m)
      (made ++ [.createDirectory place]) where
  directories := by
    rw [carriedOut, h.directories]
    exact (firstPaths_concat made (.createDirectory place)).symm
  files := by
    rw [firstPaths_concat_other (by simp [operation])]
    exact h.files
  contents other := by
    rw [lastContent?_concat]
    exact h.contents other

theorem write (h : m.Recalls made) (place : PathSpelling) (content : α) :
    Recalls ((MemoryCall.write place content).carriedOut m)
      (made ++ [.write place content]) where
  directories := by
    rw [firstPaths_concat_other (by simp [operation])]
    exact h.directories
  files := by
    rw [carriedOut, Association.keys_put, h.files]
    exact (firstPaths_concat made (.write place content)).symm
  contents other := by
    have written : ((MemoryCall.write place content).carriedOut m).content? other.read =
        if other.read = place.read then some content else m.content? other.read :=
      Association.lookup_put place.read content m.files other.read
    rw [written, lastContent?_concat, contentAt?, h.contents]
    by_cases same : place.normal = other.normal
    · rw [if_pos same, if_pos (PathSpelling.read_eq_iff.mpr same.symm)]
      rfl
    · rw [if_neg same, if_neg (mt PathSpelling.read_eq_iff.mp (Ne.symm same))]
      rfl

/-- A call that is carried out is recalled behind those before it. -/
theorem carriedOut (h : m.Recalls made) (call : MemoryCall α) :
    (call.carriedOut m).Recalls (made ++ [call]) := by
  cases call with
  | createDirectory place => exact h.createDirectory place
  | write place content => exact h.write place content

end Recalls

/-! ## Histories -/

/-- What is recalled stays so, and the calls that succeed are recalled behind it. -/
theorem recalls_after {m : Memory α} {earlier : List (MemoryCall α)} (h : m.Recalls earlier)
    (calls : List (MemoryCall α)) : (m.after calls).Recalls (earlier ++ m.successes calls) := by
  induction calls generalizing m earlier with
  | nil =>
    rw [successes, List.append_nil]
    exact h
  | cons call rest ih =>
    rcases call.perform_cases m with ⟨-, cause, refused⟩ | ⟨-, done⟩
    · -- Of a call that is refused nothing is recalled, and nothing has changed.
      rw [successes, refused, after, List.foldl_cons, refused]
      exact ih h
    · have further := ih (h.carriedOut call)
      rw [List.append_assoc] at further
      rw [successes, done, after, List.foldl_cons, done]
      exact further

theorem Reachable.after {m : Memory α} (h : m.Reachable) (calls : List (MemoryCall α)) :
    (m.after calls).Reachable := by
  induction calls generalizing m with
  | nil => exact h
  | cons call rest ih =>
    cases call with
    | createDirectory place => exact ih (h.createDirectory place.read)
    | write place content => exact ih (h.write place.read content)

/-- **What a memory holds after every history.** No path is a directory and a file. The directories
are there once each, in the order in which they were first made, and the files in the order in which
they were first written. What is read at a path, in any spelling, is what the last call that
succeeded in writing there wrote. A call that fails is refused by the destination and leaves the
memory as it was; after a history it succeeds just if none of the other kind has succeeded at its
path. -/
theorem holds_history (calls : List (MemoryCall α)) :
    (∀ path, ¬ (path ∈ (empty.after calls).directories ∧
      path ∈ (empty.after calls).files.map Prod.fst)) ∧
    (empty.after calls).directories.Nodup ∧
    (empty.after calls).directories = firstPaths .createDirectory (empty.successes calls) ∧
    (∀ place : PathSpelling, (empty.after calls).content? place.read =
      lastContent? (empty.successes calls) place) ∧
    (empty.after calls).files.map Prod.fst = firstPaths .writeText (empty.successes calls) ∧
    (∀ (m : Memory α) (call : MemoryCall α), (call.perform m).1 = .ok () ∨ ∃ cause,
      call.perform m = (.error (.destination call.place.read call.operation cause), m)) ∧
    ∀ call : MemoryCall α, (call.perform (empty.after calls)).1 = .ok () ↔
      ¬ call.Clashes (empty.successes calls) := by
  have consistent : (empty.after calls).Consistent := (Reachable.empty.after calls).consistent
  have recalled : (empty.after calls).Recalls (empty.successes calls) :=
    recalls_after recalls_empty calls
  refine ⟨fun path both => consistent.apart path both.1 both.2, consistent.directories,
    recalled.directories, recalled.contents, recalled.files, fun m call => ?_, fun call => ?_⟩
  · rcases call.perform_cases m with ⟨-, refused⟩ | ⟨-, done⟩
    · exact .inr refused
    · exact .inl (congrArg Prod.fst done)
  · rw [← recalled.barred_iff]
    rcases call.perform_cases (empty.after calls) with ⟨barred, cause, refused⟩ | ⟨free, done⟩
    · rw [refused]
      exact iff_of_false (fun e => by cases e) (not_not_intro barred)
    · rw [done]
      exact iff_of_true rfl free

/-- Three spellings of one file, a directory that clashes with it, and one that does not. -/
example :
    let calls : List (MemoryCall String) :=
      [.write (.text "out/P") "x", .createDirectory (.text "./out//P"),
        .createDirectory (.text "out"), .write (.text "out/./P/") "y"]
    empty.after calls = ⟨[⟨.relative, ["out"]⟩], [(⟨.relative, ["out", "P"]⟩, "y")]⟩ := by
  decide

end Memory

end GosuForge
