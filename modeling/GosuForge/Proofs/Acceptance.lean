import GosuForge.Document.Load
import GosuForge.Proofs.Reading
import GosuForge.Proofs.Reference

/-!
# Documents that are loaded

A document with the kinds of data of the format is loaded if and only if it is sound, and is refused
for a defect of its own otherwise.

* `ReferenceIndex.Knows`: an index answers for every text, as a document resolves it;
* `LoadedModel.verdict_addRelationship`: what a relationship must join;
* `LoadedModel.ofDocument_exact`: the whole.
-/

namespace GosuForge

open Outcome (Verdict)

theorem Draft.namesOfNode_eq {n : (ElementId × Heading) × List (ElementId × Heading)}
    {p : DocumentPart} (h : NamedAs n p) : namesOfNode n = .ok (p.qualifiedName, p.name) := by
  obtain ⟨own, around⟩ := h
  have names : ((n.1 :: n.2).map fun o => o.2.name).reverse =
      (p.name :: p.around).reverse.map .str := by
    rw [List.map_cons, own, around, List.map_reverse, List.map_cons]
  rw [namesOfNode, names, Model.joinNames_str, own]
  rfl

namespace ReferenceIndex

/-- An index answers for every text, with something if the document resolves it. -/
def Knows (index : ReferenceIndex) (document : Entries) : Prop :=
  ∀ reference : String, ∃ found, index.lookup (.str reference) = .ok found ∧
    (found.isSome = true ↔ Document.Resolves document reference)

section

variable {names : List String} {numbers : List ElementId}

theorem isSome_lookup_zip (h : numbers.length = names.length) (name : String) :
    ((names.zip numbers).lookup name).isSome = true ↔ name ∈ names := by
  have mem : name ∈ (names.zip numbers).map Prod.fst ↔ name ∈ names := by
    rw [List.map_fst_zip (Nat.le_of_eq h.symm)]
  rw [List.lookup_isSome_iff, ← mem]
  simp

/-- A simple name is found if it is the name of just one element. -/
theorem length_filter_zip (h : numbers.length = names.length) (name : String) :
    ((names.zip numbers).filter fun (n, _) => n == name).length =
      (names.filter (· == name)).length := by
  have zip_eq := List.map_fst_zip (Nat.le_of_eq h.symm)
  conv_rhs => rw [← zip_eq, List.filter_map, List.length_map]
  rfl

theorem isSome_bySimpleName (ids : List (Value × ElementId)) (qualified : List (String × ElementId))
    (h : numbers.length = names.length) (name : String) :
    (bySimpleName ⟨ids, qualified, names.zip numbers⟩ name).isSome = true ↔
      (names.filter (· == name)).length = 1 := by
  rw [← length_filter_zip h, bySimpleName]
  dsimp only
  generalize List.filter _ (names.zip numbers) = found
  rcases found with _ | ⟨first, _ | ⟨second, rest⟩⟩ <;> simp

end

theorem isSome_byId (index : ReferenceIndex) (reference : String) :
    (index.byId (.str reference)).isSome = true ↔ .str reference ∈ index.ids.map Prod.fst := by
  rw [byId, Option.isSome_map, List.find?_isSome]
  simp [Value.sameKey_str]

/-- What an index of the parts of a document must hold. -/
theorem knows_of_names {document : Entries} {ids : List (Value × ElementId)}
    {numbers : List ElementId} (length_eq : numbers.length = (Document.parts document).length)
    (ids_eq : ids.map Prod.fst =
      ((Document.parts document).filterMap DocumentPart.id?).map .str) :
    Knows ⟨ids, ((Document.parts document).map DocumentPart.qualifiedName).zip numbers,
      ((Document.parts document).map DocumentPart.name).zip numbers⟩ document := by
  intro reference
  have id_iff : Value.str reference ∈ ids.map Prod.fst ↔
      ∃ p ∈ Document.parts document, p.id? = some reference := by
    rw [ids_eq]
    simp
  have names_length (f : DocumentPart → String) :
      numbers.length = ((Document.parts document).map f).length := by
    rwa [List.length_map]
  have qualified_iff := isSome_lookup_zip (names_length DocumentPart.qualifiedName) reference
  have simple_iff := isSome_bySimpleName ids
    (((Document.parts document).map DocumentPart.qualifiedName).zip numbers)
    (names_length DocumentPart.name) reference
  refine ⟨_, if_pos rfl, ?_⟩
  rw [Option.isSome_or, Bool.or_eq_true, byName, Option.isSome_or, Bool.or_eq_true,
    Document.Resolves, isSome_byId, id_iff, qualified_iff, simple_iff,
    List.filter_map, List.length_map, List.length_eq_one_iff]
  refine or_congr Iff.rfl (or_congr ?_ Iff.rfl)
  simp

/-- The names of the elements of a draft are those of the parts that it was read from. -/
theorem knows_of_mirrors {document : Entries} {d : Draft} {resolver : Resolver}
    (wf : d.WellFormed)
    (mirrors : Draft.Mirrors [] (Document.parts document) d.nodes d.references)
    (ids_eq : (d.identified 0).map Prod.fst =
      ((Document.parts document).filterMap DocumentPart.id?).map .str) :
    ∃ index, ofTree (d.toModel resolver) 0 (d.identified 0) = .ok index ∧
      index.Knows document := by
  have nodes := mirrors.names [] 0 rfl
  have names : (d.nodes [] 0).mapM Draft.namesOfNode =
      .ok ((Document.parts document).map fun p => (p.qualifiedName, p.name)) := by
    rw [Outcome.mapM_eq_ok, List.forall₂_map_right_iff]
    exact nodes.imp fun n p h => Draft.namesOfNode_eq h
  have size := Nat.le_of_eq (Draft.size_toModel resolver d).symm
  rw [Draft.ofTree_eq wf (Draft.placedAt_toModel resolver d) size, names]
  refine ⟨_, rfl, ?_⟩
  rw [List.map_map, List.map_map]
  refine knows_of_names ?_ ids_eq
  rw [List.length_map, nodes.length_eq]

variable {index : ReferenceIndex} {document : Entries}

theorem Knows.verdict_resolve (h : index.Knows document) (reference : String)
    (missing : ModelDefect) :
    Verdict (index.resolve (.str reference) missing) (Document.Resolves document reference)
      fun _ => True := by
  obtain ⟨found, hf, iff⟩ := h reference
  rw [resolve, ← iff]
  refine .bind_ok hf ?_
  cases found with
  | none => exact (Verdict.refuse missing).congr (by simp)
  | some id => exact Verdict.congr (.pure trivial) (by simp)

end ReferenceIndex

namespace LoadedModel

variable {index : ReferenceIndex} {document : Entries}

theorem verdict_checkTypes (known : index.Knows document) {references : List (Value × Value)}
    {texts : List String} (h : references.map Prod.fst = texts.map .str) :
    Verdict (checkTypes index references) (∀ text ∈ texts, Document.Resolves document text)
      fun _ => True := by
  induction references generalizing texts with
  | nil =>
    obtain rfl : texts = [] := by simpa using h.symm
    exact Verdict.congr (.pure trivial) (by simp)
  | cons x rest ih =>
    obtain ⟨text, texts, rfl⟩ : ∃ t ts, texts = t :: ts := by
      cases texts with
      | nil => cases h
      | cons t ts => exact ⟨t, ts, rfl⟩
    obtain ⟨reference, owner⟩ := x
    obtain ⟨rfl, hrest⟩ := List.cons.inj h
    rw [checkTypes, List.forall_mem_cons]
    exact (known.verdict_resolve text _).bind fun _ _ _ => ih hrest

/-- What an end of an association must say. -/
theorem verdict_endOf (known : index.Knows document) {entries : Entries}
    (text : entries.Fits "reference" Value.isText) :
    Verdict (endOf index (.obj entries))
      (entries.AccessKnown ∧ Document.Refers document entries "reference") fun _ => True := by
  rw [endOf, Document.Refers]
  refine .bind_ok rfl ?_
  refine (Draft.verdict_headingOf entries).bind fun heading _ _ => ?_
  rw [Entries.get?_of_isText text]
  cases entries.text? "reference" with
  | none => exact (Verdict.refuse _).congr (by simp)
  | some reference =>
    have resolved :=
      known.verdict_resolve reference (.unresolvedEnd (.str reference) "association end")
    exact (resolved.bind_pure fun _ _ => trivial).congr (by simp)

theorem verdict_joined {entries : Entries} {key : String} (word : String)
    (text : entries.Fits key Value.isText) :
    Verdict (joined entries word key) (entries.text? key).isSome
      fun v => ∃ reference, entries.text? key = some reference ∧ v = .str reference := by
  rw [joined, Entries.get?_of_isText text]
  cases entries.text? key with
  | none => exact (Verdict.refuse _).congr (by simp)
  | some reference => exact Verdict.congr (.pure ⟨reference, rfl, rfl⟩) (by simp)

theorem kindOf_str {word : String} (h : word ≠ "association") :
    kindOf (.str word) = (directedWords.lookup word).elim
      (.error (.model (.relationshipKind (.str word)))) fun kind => .ok (.directed word kind) := by
  unfold kindOf
  split
  · rename_i he
    exact absurd (Value.str.inj he) h
  · rename_i he
    cases he
    cases directedWords.lookup word <;> rfl
  · rename_i he
    exact absurd rfl (he word)

/-- What a relationship says that it is, if it is of a known kind. -/
theorem verdict_kindOf {relationship : Entries} (text : relationship.Fits "kind" Value.isText) :
    Verdict (kindOf (relationship.getD "kind" .null))
      (∃ word ∈ "association" :: directedWords.map Prod.fst,
        relationship.text? "kind" = some word)
      fun kind => (relationship.text? "kind" = some "association" ∧ kind = .association) ∨
        ∃ word found, word ∈ directedWords.map Prod.fst ∧ relationship.text? "kind" = some word ∧
          kind = .directed word found := by
  rw [Entries.getD, Entries.get?_of_isText text]
  cases hk : relationship.text? "kind" with
  | none => exact (Verdict.refuse _).congr (by simp)
  | some word =>
    by_cases association : word = "association"
    · subst association
      exact Verdict.congr (.pure (.inl ⟨rfl, rfl⟩)) (by simp)
    · have known : (directedWords.lookup word).isSome = true ↔
          word ∈ directedWords.map Prod.fst := by
        rw [List.lookup_isSome_iff]
        simp
      rw [Option.map_some, Option.getD_some, kindOf_str association]
      cases hl : directedWords.lookup word with
      | none =>
        refine (Verdict.refuse _).congr ?_
        rw [hl] at known
        simpa [association] using known
      | some kind =>
        rw [hl] at known
        have mem := known.mp rfl
        exact Verdict.congr (.pure (.inr ⟨word, kind, mem, rfl, rfl⟩))
          (iff_of_true trivial ⟨word, List.mem_cons_of_mem _ mem, rfl⟩)

/-- What was given under a key is a reference that the document resolves. -/
theorem verdict_given (known : index.Knows document) {entries : Entries} {key : String} {v : Value}
    (h : ∃ reference, entries.text? key = some reference ∧ v = .str reference)
    (missing : ModelDefect) :
    Verdict (index.resolve v missing) (Document.Refers document entries key) fun _ => True := by
  obtain ⟨reference, text, rfl⟩ := h
  refine (known.verdict_resolve reference missing).congr ?_
  rw [Document.Refers, text]
  simp

section

variable {relationship : Entries}

/-- What must be true of an association. -/
theorem joins_association (h : relationship.text? "kind" = some "association") :
    (Document.Joins document relationship ∧
      ∀ e ∈ Document.ends relationship, e.AccessKnown) ↔
    ((relationship.object "end1").AccessKnown ∧
      Document.Refers document (relationship.object "end1") "reference") ∧
    (relationship.object "end2").AccessKnown ∧
      Document.Refers document (relationship.object "end2") "reference" := by
  have ends_eq : Document.ends relationship =
      [relationship.object "end1", relationship.object "end2"] := by
    rw [Document.ends, Document.isAssociation, h]
    rfl
  rw [Document.Joins, ends_eq, h]
  simp
  tauto

theorem isAssociation_eq_false {word : String} (hw : word ∈ directedWords.map Prod.fst)
    (h : relationship.text? "kind" = some word) : Document.isAssociation relationship = false := by
  rw [Document.isAssociation, h]
  simp only [directedWords, List.map_cons, List.map_nil, List.mem_cons, List.not_mem_nil,
    or_false] at hw
  rcases hw with rfl | rfl | rfl <;> rfl

/-- What must be true of a relationship from a source to a target. -/
theorem joins_directed {word : String} (hw : word ∈ directedWords.map Prod.fst)
    (h : relationship.text? "kind" = some word) :
    (Document.Joins document relationship ∧
      ∀ e ∈ Document.ends relationship, e.AccessKnown) ↔
    Document.Refers document relationship "source" ∧
      Document.Refers document relationship "target" := by
  have other := isAssociation_eq_false hw h
  have ends_eq : Document.ends relationship = [] := by
    rw [Document.ends, other]
    rfl
  rw [Document.Joins, ends_eq, h]
  constructor
  · rintro ⟨⟨association, -⟩ | ⟨-, -, -, joined⟩, -⟩
    · rw [Document.isAssociation, h, association] at other
      cases other
    · exact joined
  · exact fun joined => ⟨.inr ⟨word, hw, rfl, joined⟩, by simp⟩

/-- A relationship that joins something says of what kind it is. -/
theorem exists_word_of_joins (h : Document.Joins document relationship) :
    ∃ word ∈ "association" :: directedWords.map Prod.fst,
      relationship.text? "kind" = some word := by
  rcases h with ⟨word, -⟩ | ⟨word, hw, hword, -⟩
  · exact ⟨_, List.mem_cons_self, word⟩
  · exact ⟨word, List.mem_cons_of_mem _ hw, hword⟩

theorem isSome_of_refers {key : String} (h : Document.Refers document relationship key) :
    (relationship.text? key).isSome = true := by
  obtain ⟨reference, text, -⟩ := h
  rw [text]
  rfl

/-- A relationship joins what its references name, and its ends have known visibilities. -/
theorem verdict_addRelationship (known : index.Knows document)
    (documented : Document.RelationshipDocumented relationship) (d : Design) :
    Verdict (addRelationship index d (.obj relationship)) (Document.Joins document relationship ∧
      ∀ e ∈ Document.ends relationship, e.AccessKnown) fun _ => True := by
  obtain ⟨kindText, association, directed⟩ := documented
  rw [addRelationship]
  refine .bind_ok rfl (((verdict_kindOf kindText).bind fun kind _ hkind => ?_).congr
    (and_iff_right_of_imp fun h => exists_word_of_joins h.1))
  rcases hkind with ⟨word, rfl⟩ | ⟨word, found, hw, hword, rfl⟩
  · have isAssociation : Document.isAssociation relationship = true := by
      rw [Document.isAssociation, word]
      rfl
    obtain ⟨⟨object1, text1⟩, object2, text2⟩ : _ ∧ _ := by
      simpa using association isAssociation
    have end1 := verdict_endOf known text1
    have end2 := verdict_endOf known text2
    rw [← Entries.getD_of_isObject object1] at end1
    rw [← Entries.getD_of_isObject object2] at end2
    refine Verdict.congr ?_ (joins_association word).symm
    exact end1.bind fun e1 _ _ => end2.bind_pure fun _ _ => trivial
  · obtain ⟨text1, text2⟩ : _ ∧ _ := by simpa using directed (isAssociation_eq_false hw hword)
    refine Verdict.congr (p := (relationship.text? "source").isSome ∧
      (relationship.text? "target").isSome ∧ Document.Refers document relationship "source" ∧
      Document.Refers document relationship "target") ?_ ?_
    · refine (verdict_joined word text1).bind fun source _ hs => ?_
      refine (verdict_joined word text2).bind fun target _ ht => ?_
      refine (verdict_given known hs _).bind fun a _ _ => ?_
      exact (verdict_given known ht _).bind_pure fun _ _ => trivial
    · rw [joins_directed hw hword]
      constructor
      · exact fun h => h.2.2
      · exact fun h => ⟨isSome_of_refers h.1, isSome_of_refers h.2, h⟩

end

theorem verdict_addRelationships (known : index.Knows document) {relationships : List Entries}
    (documented : ∀ relationship ∈ relationships, Document.RelationshipDocumented relationship)
    (d : Design) :
    Verdict (addRelationships index d (relationships.map .obj))
      (∀ relationship ∈ relationships, Document.Joins document relationship ∧
        ∀ e ∈ Document.ends relationship, e.AccessKnown) fun _ => True := by
  induction relationships generalizing d with
  | nil => exact Verdict.congr (.pure trivial) (by simp)
  | cons relationship rest ih =>
    obtain ⟨first, later⟩ := List.forall_mem_cons.mp documented
    rw [List.map_cons, addRelationships, List.forall_mem_cons]
    exact (verdict_addRelationship known first d).bind fun next _ _ => ih later next

/-- Drafts of documents are trees with the names, the references and the ids of the parts. -/
theorem verdict_draft (documented : Document.Documented document) :
    Verdict (Draft.ofDocument (.obj document)) (Draft.Readable [] (Document.parts document))
      fun d => d.WellFormed ∧ Draft.Mirrors [] (Document.parts document) d.nodes d.references ∧
        (d.identified 0).map Prod.fst =
          ((Document.parts document).filterMap DocumentPart.id?).map .str := by
  have read := (Draft.verdict_ofValue (.obj document) rfl .nil documented.parts).and_eq
  refine read.map fun r _ h => ?_
  obtain ⟨draft, ids⟩ := r
  obtain ⟨hread, mirrors, hids⟩ := h
  obtain ⟨known, -⟩ := Draft.ids_of_ofValue draft 0 hread
  exact ⟨Draft.wellFormed_of_ofValue draft hread, mirrors, known.symm.trans hids⟩

/-- What the steps of loading a document ask of it is that it is sound. -/
theorem sound_iff : Document.Sound document ↔ Draft.Readable [] (Document.parts document) ∧
    (∀ text ∈ (Document.parts document).flatMap DocumentPart.references,
      Document.Resolves document text) ∧
    ∀ relationship ∈ Document.relationships document, Document.Joins document relationship ∧
      ∀ e ∈ Document.ends relationship, e.AccessKnown := by
  constructor
  · rintro ⟨visibilities, endVisibilities, directions, ids, types, relationships⟩
    refine ⟨⟨fun p hp => ⟨visibilities p hp, fun e he => ?_, directions p hp⟩, ids⟩, ?_, ?_⟩
    · intro object
      obtain ⟨reference, href, -⟩ := types p hp e he object
      exact ⟨reference, href, trivial⟩
    · intro text ht
      obtain ⟨p, hp, ht⟩ := List.mem_flatMap.mp ht
      obtain ⟨e, he, href⟩ := List.mem_filterMap.mp ht
      obtain ⟨reference, href', resolves⟩ :=
        types p hp e he (Entries.isObject_of_typeReference href)
      rw [href] at href'
      cases href'
      exact resolves
    · exact fun r hr => ⟨relationships r hr, endVisibilities r hr⟩
  · rintro ⟨⟨said, ids⟩, references, relationships⟩
    refine ⟨fun p hp => (said p hp).access, fun r hr => (relationships r hr).2,
      fun p hp => (said p hp).directions, ids, fun p hp e he object => ?_,
      fun r hr => (relationships r hr).1⟩
    obtain ⟨reference, href, -⟩ := (said p hp).types e he object
    have mem : reference ∈ p.references := List.mem_filterMap.mpr ⟨e, he, href⟩
    exact ⟨reference, href, references reference (List.mem_flatMap.mpr ⟨p, hp, mem⟩)⟩

/-- A document with the kinds of data of the format is loaded if and only if it is sound; otherwise
it is refused for a defect. -/
theorem ofDocument_exact (documented : Document.Documented document) :
    (∀ fault, ofDocument (.obj document) = .error fault → ∃ defect, fault = .model defect) ∧
      ((∃ loaded, ofDocument (.obj document) = .ok loaded) ↔ Document.Sound document) := by
  have verdict : Verdict (ofDocument (.obj document)) (Document.Sound document) fun _ => True := by
    rw [sound_iff, ofDocument]
    refine (verdict_draft documented).bind fun draft _ h => ?_
    obtain ⟨wf, mirrors, ids⟩ := h
    obtain ⟨index, hindex, known⟩ := ReferenceIndex.knows_of_mirrors wf mirrors ids
    refine .bind_ok rfl (.bind_ok hindex ?_)
    refine (verdict_checkTypes known mirrors.references).bind fun _ _ _ => ?_
    refine .bind_ok (Entries.itemsOf_eq documented.relationships) ?_
    have added := verdict_addRelationships known documented.eachRelationship
    exact (added _).bind_pure fun _ _ => trivial
  exact ⟨fun fault hf => (verdict.refused fault hf).2, verdict.exists_ok_iff⟩

/-- A package with a class, an enumeration and a note, in which a visibility is not looked at. -/
def library (id : String) : Entries :=
  [("name", .str "library"), ("id", .str "p"),
    ("elements", .arr [
      .obj [("kind", .str "class"), ("name", .str "Book"), ("id", .str "b"),
        ("attributes", .arr [
          .obj [("name", .str "genre"), ("visibility", .str "private"),
            ("type", .obj [("$ref", .str "library.Genre")])]]),
        ("operations", .arr [
          .obj [("name", .str "lend"), ("parameters", .arr [
            .obj [("name", .str "days"), ("type", .str "int"), ("direction", .str "in")]])]])],
      .obj [("kind", .str "enumeration"), ("name", .str "Genre"), ("id", .str id),
        ("literals",
          .arr [.str "NOVEL", .obj [("name", .str "POEM"), ("visibility", .str "public")]])],
      .obj [("kind", .str "note"), ("elements", .arr [.obj [("visibility", .str "hidden")]])]]),
    ("relationships", .arr [
      .obj [("kind", .str "generalization"), ("source", .str "Book"), ("target", .str "b")],
      .obj [("kind", .str "association"), ("end1", .obj [("reference", .str "b")]),
        ("end2", .obj [("reference", .str "Genre"), ("visibility", .str "package")])]])]

/-- The library is sound, but not if the enumeration has the id of the class. -/
theorem ofDocument_exact_library :
    Document.Documented (library "g") ∧ Document.Sound (library "g") ∧
      Document.Documented (library "b") ∧ ¬ Document.Sound (library "b") := by
  have documented : Document.Documented (library "g") :=
    ⟨by decide +kernel, by decide +kernel, by decide +kernel⟩
  have documented' : Document.Documented (library "b") :=
    ⟨by decide +kernel, by decide +kernel, by decide +kernel⟩
  have refused : ofDocument (.obj (library "b")) = .error (.model (.duplicateId (.str "b"))) := by
    rfl
  refine ⟨documented, (ofDocument_exact documented).2.mp ?_, documented', fun sound => ?_⟩
  · cases h : ofDocument (.obj (library "g")) with
    | ok loaded => exact ⟨loaded, rfl⟩
    | error fault => cases h
  · obtain ⟨loaded, h⟩ := (ofDocument_exact documented').2.mpr sound
    rw [refused] at h
    cases h

end LoadedModel

end GosuForge
