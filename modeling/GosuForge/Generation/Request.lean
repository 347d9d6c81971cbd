import GosuForge.Document.Load
import GosuForge.Generation.Workbench
import GosuForge.Registry

/-!
# Requests

The whole way from a language, settings and a model to generated code, with the generators that come
with the library. A model file may name an author, who counts unless the options name one.
-/

namespace GosuForge.Request

/-- Generates `root` with a generator of the language that is made for this run. -/
def generate {σ : Type} (language : Value) (source : SettingsSource) (d : Design)
    (root : ElementId) (path : Path) (storage : Storage σ) (disk : Disk) (state : σ) :
    Except Fault (GenerationResult × σ) := do
  let generator ← Registry.bundled.create language source disk
  let (result, _, _, state) := (Workbench.new generator).run d root path storage state
  .ok (result, state)

/-- Options with the author of a model, if they name none that counts. -/
def withAuthor (options : Entries) (author : Value) : Entries :=
  if author.truthy && !(options.getD "author" .null).truthy then options.put "author" author
  else options

/-- Generates the root of a model file. -/
def generateFile {σ : Type} (language : Value) (options : Value) (model path : Path)
    (storage : Storage σ) (disk : Disk) (state : σ) : Except Fault (GenerationResult × σ) := do
  let loaded ← LoadedModel.ofFile model disk
  let given ← if options.truthy then options.asEntries else .ok []
  let source := SettingsSource.overrides (withAuthor given loaded.author)
  generate language source loaded.design loaded.root path storage disk state

end GosuForge.Request
