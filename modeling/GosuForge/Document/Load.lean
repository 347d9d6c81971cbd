import GosuForge.Document.Placement
import GosuForge.Document.Reference
import GosuForge.Gosu.Declaration
import GosuForge.Json.File
import GosuForge.Storage.Disk

/-!
# Loading models

`LoadedModel.ofDocument` reads a document in three steps: the tree of elements as a draft, the
references to types in it, and the relationships, whose association ends become elements of their
own after the others. `LoadedModel.ofFile` reads the document from a file.
-/

namespace GosuForge

structure LoadedModel where
  design : Design
  root : ElementId
  author : Value
  ids : List (Value × ElementId)
  deriving Inhabited

namespace LoadedModel

/-- The words for directed relationships in documents. -/
def directedWords : List (String × DirectedKind) :=
  [("generalization", .generalization), ("realization", .realization),
   ("interfaceRealization", .realization)]

/-- What a relationship says that it is. -/
inductive RelationshipKind
  | directed (word : String) (kind : DirectedKind)
  | association
  deriving DecidableEq, Repr

def kindOf (v : Value) : Except Fault RelationshipKind :=
  match v with
  | .str "association" => .ok .association
  | .str word =>
    match directedWords.lookup word with
    | some kind => .ok (.directed word kind)
    | none => .error (.model (.relationshipKind v))
  | v => if v.isKey then .error (.model (.relationshipKind v)) else .error .wrongType

/-- An association end; what it stands at must be said and be there. -/
def endOf (index : ReferenceIndex) (v : Value) : Except Fault Element := do
  let entries ← Draft.entriesOf v
  let heading ← Draft.headingOf entries
  match Entries.get? entries "reference" with
  | none => .error (.model .endWithoutReference)
  | some reference => do
    let id ← index.resolve reference (.unresolvedEnd reference "association end")
    let typing : Typing :=
      ⟨.element id, .str (Draft.textOf entries "multiplicity"),
        .bool (Draft.flagOf entries "isOrdered"), .str (Draft.textOf entries "defaultValue")⟩
    .ok (heading.place none (.associationEnd typing (.bool (Draft.flagOf entries "navigable"))))

/-- One of the two elements that a directed relationship joins. -/
def joined (entries : Entries) (word key : String) : Except Fault Value :=
  match entries.get? key with
  | some v => .ok v
  | none => .error (.model (.relationshipWithout word key))

/-- Adds a relationship to a design; the ends of an association become its last elements. -/
def addRelationship (index : ReferenceIndex) (d : Design) (v : Value) : Except Fault Design := do
  let entries ← Draft.entriesOf v
  let kind ← kindOf (entries.getD "kind" .null)
  let name := entries.getD "name" (.str "")
  match kind with
  | .association => do
    let end1 ← endOf index (entries.getD "end1" (.obj []))
    let end2 ← endOf index (entries.getD "end2" (.obj []))
    let next := d.model.next
    .ok ⟨(d.model.push end1).push end2,
      d.relationships ++ [.association name next (next + 1)]⟩
  | .directed word kind => do
    let source ← joined entries word "source"
    let target ← joined entries word "target"
    let source ← index.resolve source (.unresolvedEnd source word)
    let target ← index.resolve target (.unresolvedEnd target word)
    .ok ⟨d.model, d.relationships ++ [.directed kind name (some source) (some target)]⟩

def addRelationships (index : ReferenceIndex) (d : Design) : List Value → Except Fault Design
  | [] => .ok d
  | v :: rest => do
    let d ← addRelationship index d v
    addRelationships index d rest

/-- Every reference to a type must name an element. -/
def checkTypes (index : ReferenceIndex) : List (Value × Value) → Except Fault Unit
  | [] => .ok ()
  | (reference, owner) :: rest => do
    let _ ← index.resolve reference (.unresolvedType reference owner)
    checkTypes index rest

def ofDocument (document : Value) : Except Fault LoadedModel := do
  let draft ← Draft.ofDocument document
  let entries ← Draft.entriesOf document
  let ids := draft.identified 0
  let index ← ReferenceIndex.ofTree (draft.toModel fun _ => none) 0 ids
  checkTypes index draft.references
  let resolver : Resolver := fun r => (index.lookup r).toOption.join
  let items ← Draft.itemsOf entries "relationships"
  let design ← addRelationships index ⟨draft.toModel resolver, []⟩ items
  .ok ⟨design, 0, (entries.getD "author" .null).orElse .null, ids⟩

/-- The element that a reference names. -/
def find (loaded : LoadedModel) (reference : Value) : Except Fault (Option ElementId) := do
  let index ← ReferenceIndex.ofTree loaded.design.model loaded.root loaded.ids
  index.lookup reference

/-- Reads a model file, which must be there and hold JSON. -/
def ofFile (path : Path) (disk : Disk) : Except Fault LoadedModel := do
  let found ← disk.exists? path
  if !found then .error (.modelMissing path)
  else
    match disk.readText path with
    | .error fault => .error (.model (.unreadable path fault))
    | .ok raw => do
      let document ← Json.ofFile (fun detail => .model (.invalidJson path detail)) raw
      ofDocument document

end LoadedModel

end GosuForge
