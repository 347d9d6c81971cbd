import GosuForge.Proofs.Association
import GosuForge.Proofs.Outcome
import GosuForge.Proofs.Path
import GosuForge.Storage.Disk

/-!
# Where paths lead on a disk

* `Disk.descend_set`, `Disk.locate_set`: a path that leads to a place leads to it for good, as long
  as directories stay;
* `Disk.Holds`: what stands where a path leads;
* `Disk.eq_of_locate`: two paths below a directory that lead to one place are one path;
* `Disk.readText_of_writeText`: what is written can be read.
-/

namespace GosuForge

namespace Disk

variable {d : Disk}

theorem put_eq (place : Place) (node : DiskNode) (nodes : List (Place × DiskNode)) :
    put place node nodes = Association.put place node nodes := by
  induction nodes with
  | nil => rfl
  | cons entry rest ih => rw [put, Association.put, ih]

@[simp] theorem node?_set (d : Disk) (place p : Place) (node : DiskNode) :
    (d.set place node).node? p = if p = place then some node else d.node? p := by
  rw [node?, set, put_eq, Association.lookup_put]
  rfl

/-! ## Following names -/

theorem descend_cons {name : String} (down : name ≠ "..") (d : Disk) (place : Place)
    (names : List String) :
    d.descend place (name :: names) =
      if name.utf8ByteSize > nameLimit then .error .nameTooLong
      else
        match d.node? (place ++ [name]) with
        | some .directory => d.descend (place ++ [name]) names
        | some (.file _) => .error .notDirectory
        | none => .error .missing := by
  conv_lhs => unfold descend
  split
  · contradiction
  · rename_i e
    exact absurd (List.cons.inj e).1 down
  · rename_i e
    cases e
    rfl

/-- A name is followed into a directory. -/
theorem descend_cons_eq_ok {name : String} (down : name ≠ "..") {place reached : Place}
    {names : List String} :
    d.descend place (name :: names) = .ok reached ↔
      name.utf8ByteSize ≤ nameLimit ∧ d.node? (place ++ [name]) = some .directory ∧
        d.descend (place ++ [name]) names = .ok reached := by
  rw [descend_cons down]
  by_cases long : name.utf8ByteSize > nameLimit
  · simp [long, Nat.not_le.mpr long]
  · rw [if_neg long]
    rcases d.node? (place ++ [name]) with _ | _ | text <;> simp [Nat.not_lt.mp long]

theorem descend_append (d : Disk) (place : Place) (names further : List String) :
    d.descend place (names ++ further) =
      d.descend place names >>= fun reached => d.descend reached further := by
  induction names generalizing place with
  | nil => rfl
  | cons name names ih =>
    by_cases up : name = ".."
    · subst up
      exact ih place.dropLast
    · rw [List.cons_append, descend_cons up, descend_cons up, ih]
      split
      · rfl
      · split <;> rfl

/-- Without a step up, names lead down to where they say. -/
theorem descend_eq_append {place reached : Place} {names : List String} (down : ".." ∉ names)
    (h : d.descend place names = .ok reached) : reached = place ++ names := by
  induction names generalizing place with
  | nil =>
    cases h
    exact (List.append_nil _).symm
  | cons name names ih =>
    obtain ⟨first, rest⟩ := List.ne_and_not_mem_of_not_mem_cons down
    obtain ⟨-, -, h⟩ := (descend_cons_eq_ok (Ne.symm first)).mp h
    rw [ih rest h, List.append_assoc]
    rfl

/-- Names that lead to a place lead to it for good, as long as directories stay. -/
theorem descend_set {top reached place : Place} {names : List String}
    (h : d.descend top names = .ok reached) (free : d.node? place ≠ some .directory)
    (node : DiskNode) : (d.set place node).descend top names = .ok reached := by
  induction names generalizing top with
  | nil => exact h
  | cons name names ih =>
    by_cases up : name = ".."
    · subst up
      exact ih h
    · obtain ⟨short, there, h⟩ := (descend_cons_eq_ok up).mp h
      refine (descend_cons_eq_ok up).mpr ⟨short, ?_, ih h⟩
      have other : top ++ [name] ≠ place := fun e => free (e ▸ there)
      rw [node?_set, if_neg other, there]

/-! ## Where a path leads -/

theorem locate_eq_entry {path : Path} {place : Place} {node : Option DiskNode} :
    d.locate path = .ok (.entry place node) ↔
      path.toString.utf8ByteSize < pathLimit ∧ ∃ parent name,
        d.descend (d.start path) path.parts.dropLast = .ok parent ∧
        path.parts.getLast? = some name ∧ name ≠ ".." ∧ name.utf8ByteSize ≤ nameLimit ∧
        place = parent ++ [name] ∧ node = d.node? place := by
  rw [locate]
  by_cases long : path.toString.utf8ByteSize ≥ pathLimit
  · simp [long, Nat.not_lt.mpr long]
  · rw [if_neg long, Outcome.bind_eq_ok]
    constructor
    · rintro ⟨parent, hp, h⟩
      refine ⟨Nat.not_le.mp long, parent, ?_⟩
      split at h
      · cases h
      · cases h
      · rename_i name up hl
        split at h
        · cases h
        · rename_i short
          cases h
          exact ⟨name, hp, hl, up, Nat.not_lt.mp short, rfl, rfl⟩
    · rintro ⟨-, parent, name, hp, hl, up, short, rfl, rfl⟩
      refine ⟨parent, hp, ?_⟩
      rw [hl]
      split
      · rename_i e
        cases e
      · rename_i e
        exact absurd (Option.some.inj e) up
      · rename_i e
        cases e
        rw [if_neg (Nat.not_lt.mpr short)]

/-- A path leads to a place for good, as long as directories stay. -/
theorem locate_set {path : Path} {place reached : Place} {found : Option DiskNode}
    (h : d.locate path = .ok (.entry reached found)) (free : d.node? place ≠ some .directory)
    (node : DiskNode) :
    (d.set place node).locate path =
      .ok (.entry reached (if reached = place then some node else found)) := by
  obtain ⟨fits, parent, name, hp, hl, up, short, hreached, rfl⟩ := locate_eq_entry.mp h
  refine locate_eq_entry.mpr ⟨fits, parent, name, descend_set hp free node, hl, up, short,
    hreached, ?_⟩
  rw [node?_set]

/-- A path below a directory leads to the place below the directory's. -/
theorem locate_of_isBelow {p directory : Path} (h : p.IsBelow directory) {target : Target}
    (located : d.locate p = .ok target) :
    ∃ top names, d.descend (d.start directory) directory.parts = .ok top ∧
      p = ⟨directory.anchor, directory.parts ++ names⟩ ∧
      target = .entry (top ++ names) (d.node? (top ++ names)) := by
  obtain ⟨names, nonempty, down, rfl⟩ := h
  rw [locate] at located
  split at located
  · cases located
  · obtain ⟨parent, hp, located⟩ := Outcome.bind_eq_ok.mp located
    dsimp only at hp located
    rw [List.dropLast_append_of_ne_nil nonempty, descend_append, Outcome.bind_eq_ok] at hp
    obtain ⟨top, htop, hp⟩ := hp
    have downDrop : ".." ∉ names.dropLast := fun e => down (List.dropLast_subset names e)
    have place : parent ++ [names.getLast nonempty] = top ++ names := by
      rw [descend_eq_append downDrop hp, List.append_assoc, List.dropLast_append_getLast]
    have last : (directory.parts ++ names).getLast? = some (names.getLast nonempty) := by
      rw [List.getLast?_append_of_ne_nil _ nonempty, List.getLast?_eq_some_getLast nonempty]
    refine ⟨top, names, htop, rfl, ?_⟩
    rw [last] at located
    split at located
    · rename_i e
      cases e
    · rename_i e
      exact absurd (Option.some.inj e ▸ List.getLast_mem nonempty) down
    · rename_i e
      cases e
      split at located
      · cases located
      · rw [place] at located
        cases located
        rfl

/-- Two paths below a directory that lead to one place are one path. -/
theorem eq_of_locate {p q directory : Path} (hp : p.IsBelow directory) (hq : q.IsBelow directory)
    {place : Place} {node node' : Option DiskNode}
    (h : d.locate p = .ok (.entry place node)) (h' : d.locate q = .ok (.entry place node')) :
    p = q := by
  obtain ⟨top, names, htop, rfl, e⟩ := locate_of_isBelow hp h
  obtain ⟨top', names', htop', rfl, e'⟩ := locate_of_isBelow hq h'
  cases htop.symm.trans htop'
  cases e
  have same : top ++ names = top ++ names' := (Target.entry.inj e').1
  rw [List.append_cancel_left same]

/-! ## What stands where a path leads -/

/-- A path leads to a node. -/
def Holds (d : Disk) (path : Path) (node : DiskNode) : Prop :=
  ∃ place, d.locate path = .ok (.entry place (some node))

theorem Holds.unique {path : Path} {node node' : DiskNode} (h : d.Holds path node)
    (h' : d.Holds path node') : node = node' := by
  obtain ⟨place, h⟩ := h
  obtain ⟨place', h'⟩ := h'
  cases h.symm.trans h'
  rfl

theorem node?_of_locate {path : Path} {place : Place} {node : Option DiskNode}
    (h : d.locate path = .ok (.entry place node)) : d.node? place = node := by
  obtain ⟨-, -, -, -, -, -, -, -, e⟩ := locate_eq_entry.mp h
  exact e.symm

theorem holds_set {path : Path} {place : Place} {old : Option DiskNode}
    (h : d.locate path = .ok (.entry place old)) (free : old ≠ some .directory)
    (node : DiskNode) : (d.set place node).Holds path node := by
  refine ⟨place, ?_⟩
  rw [locate_set h (node?_of_locate h ▸ free), if_pos rfl]

/-- Where other paths below a directory lead, nothing changes. -/
theorem Holds.set {p q directory : Path} (hp : p.IsBelow directory) (hq : q.IsBelow directory)
    (ne : q ≠ p) {place : Place} {old : Option DiskNode} {node : DiskNode} (h : d.Holds q node)
    (located : d.locate p = .ok (.entry place old)) (free : old ≠ some .directory)
    (new : DiskNode) : (d.set place new).Holds q node := by
  obtain ⟨reached, h⟩ := h
  refine ⟨reached, ?_⟩
  have other : reached ≠ place := by
    rintro rfl
    exact ne (eq_of_locate hq hp h located)
  rw [locate_set h (node?_of_locate located ▸ free), if_neg other]

theorem readText_eq_ok {path : Path} {text : String} :
    d.readText path = .ok text ↔ d.Holds path (.file text) := by
  rw [readText, Holds]
  rcases d.locate path with cause | place | ⟨place, _ | _ | text'⟩ <;> simp

/-- A file is written where there is none, or in the place of the old one. -/
theorem writeText_eq_ok {path : Path} {text : String} {d' : Disk} :
    d.writeText path text = .ok d' ↔
      ∃ place old, d.locate path = .ok (.entry place old) ∧ old ≠ some .directory ∧
        d' = d.set place (.file text) := by
  rw [writeText]
  rcases d.locate path with cause | place | ⟨place, _ | _ | text'⟩ <;> simp [eq_comm]

/-- A directory is made where there is nothing, or stands there already. -/
theorem makeDirectory_eq_ok {path : Path} {d' : Disk} (h : d.makeDirectory path = .ok d') :
    (∃ place, d.locate path = .ok (.standing place)) ∧ d' = d ∨
      d.Holds path .directory ∧ d' = d ∨
      ∃ place, d.locate path = .ok (.entry place none) ∧ d' = d.set place .directory := by
  rw [makeDirectory] at h
  rcases hl : d.locate path with cause | place | ⟨place, _ | _ | text⟩ <;> rw [hl] at h
  · cases h
  · cases h
    exact .inl ⟨⟨place, rfl⟩, rfl⟩
  · cases h
    exact .inr (.inr ⟨place, rfl, rfl⟩)
  · cases h
    exact .inr (.inl ⟨⟨place, hl⟩, rfl⟩)
  · cases h

/-- An operation at a destination that succeeds. -/
theorem perform_eq_ok {path : Path} {operation : StorageOperation}
    {outcome : Except StorageFault Disk} {d' : Disk}
    (h : perform d path operation outcome = (.ok (), d')) :
    hasNul path = false ∧ outcome = .ok d' := by
  unfold perform at h
  split at h
  · cases h
  · rename_i plain
    split at h
    · cases h
      exact ⟨Bool.eq_false_iff.mpr plain, rfl⟩
    · cases h

/-- What is written can be read. -/
theorem readText_of_writeText {path : Path} {text : String} {d' : Disk}
    (h : d.writeText path text = .ok d') : d'.readText path = .ok text := by
  obtain ⟨place, old, located, free, rfl⟩ := writeText_eq_ok.mp h
  exact readText_eq_ok.mpr (holds_set located free (.file text))

end Disk

end GosuForge
