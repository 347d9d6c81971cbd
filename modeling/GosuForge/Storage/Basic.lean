import GosuForge.Fault

/-!
# Destinations

A `Storage` is what generated code is written to: it makes directories and files in a state of its
own, and may refuse either. `Storage.refusing` turns down every path with a given last name.
-/

namespace GosuForge

structure Storage (σ : Type) where
  createDirectory : Path → σ → Except Fault Unit × σ
  writeText : Path → String → σ → Except Fault Unit × σ

namespace Storage

/-- A destination as a part of a larger state. -/
def within {σ τ : Type} (storage : Storage σ) (part : τ → σ) (replace : τ → σ → τ) :
    Storage τ where
  createDirectory path whole :=
    let (outcome, state) := storage.createDirectory path (part whole)
    (outcome, replace whole state)
  writeText path text whole :=
    let (outcome, state) := storage.writeText path text (part whole)
    (outcome, replace whole state)

/-- Refuses what is called `name`: directories for want of permission, files for want of space. -/
def refusing {σ : Type} (storage : Storage σ) (name : String) : Storage σ where
  createDirectory path state :=
    if path.name = name then
      (.error (.destination path .createDirectory ⟨.denied, "Permission denied"⟩), state)
    else storage.createDirectory path state
  writeText path text state :=
    if path.name = name then
      (.error (.destination path .writeText ⟨.other, "Disk full"⟩), state)
    else storage.writeText path text state

end Storage

end GosuForge
