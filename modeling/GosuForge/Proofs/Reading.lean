import GosuForge.Proofs.Draft
import GosuForge.Proofs.Format
import GosuForge.Proofs.Verdict
import Mathlib.Data.List.Nodup

/-!
# Reading documented parts

Where a document has the kinds of data of the format, reading its parts is refused for words that
are not known, for types without a reference and for ids given twice, and for nothing else.

* `Draft.verdict_headingOf`, `Draft.verdict_typingOf`: what every part says of itself;
* `Draft.verdict_bodyOf`: the members of a classifier;
* `Draft.Mirrors`: a draft has the names and the references of the parts it was read from;
* `Draft.verdict_ofValue`: a part with all those that it and its elements list.
-/

namespace GosuForge

open Outcome (Verdict)

namespace Entries

variable {entries : Entries} {key : String}

theorem get?_of_isText (h : entries.Fits key Value.isText) :
    entries.get? key = (entries.text? key).map .str := by
  rw [Fits] at h
  rw [text?]
  cases hv : entries.get? key with
  | none => rfl
  | some v =>
    rw [hv, Option.all_some] at h
    cases v with
    | str s => rfl
    | _ => cases h

theorem getD_of_isText (h : entries.Fits key Value.isText) (usual : String) :
    entries.getD key (.str usual) = .str ((entries.text? key).getD usual) := by
  rw [getD, get?_of_isText h]
  cases entries.text? key <;> rfl

/-- What is usual where nothing is given must fit, too. -/
theorem fits_iff_getD {p : Value → Bool} {usual : Value} (h : p usual = true) :
    entries.Fits key p ↔ p (entries.getD key usual) = true := by
  rw [Fits, getD]
  cases entries.get? key <;> simp [h]

theorem getD_of_isObject (h : entries.Fits key Value.isObject) :
    entries.getD key (.obj []) = .obj (entries.object key) := by
  rw [Fits] at h
  rw [getD, object, getD]
  cases hv : entries.get? key with
  | none => rfl
  | some v =>
    rw [hv, Option.all_some] at h
    cases v with
    | obj es => rfl
    | _ => cases h

theorem isObject_of_typeReference {reference : String}
    (h : entries.typeReference? = some reference) :
    (entries.getD "type" .null).isObject = true := by
  rw [typeReference?, object] at h
  cases hv : entries.getD "type" .null with
  | obj es => rfl
  | _ =>
    rw [hv] at h
    cases h

theorem map_entries {items : List Value} (h : items.all Value.isObject = true) :
    ((items.filter Value.isObject).map Value.entries).map Value.obj = items := by
  have kept : items.filter Value.isObject = items :=
    List.filter_eq_self.mpr (List.all_eq_true.mp h)
  have back (v) (hv : v ∈ items) : (Value.obj ∘ Value.entries) v = v := by
    have ho := List.all_eq_true.mp h v hv
    cases v with
    | obj es => rfl
    | _ => cases ho
  rw [kept, List.map_map, List.map_congr_left back, List.map_id']

theorem itemsOf_eq (h : entries.Fits key (Value.isListOf Value.isObject)) :
    Draft.itemsOf entries key = .ok ((entries.objects key).map .obj) := by
  rw [Fits] at h
  rw [Draft.itemsOf, getD, objects]
  cases hv : entries.get? key with
  | none => rfl
  | some v =>
    rw [hv, Option.all_some] at h
    cases v with
    | arr items => rw [map_entries h]; rfl
    | _ => cases h

end Entries

theorem Visibility.isSome_ofValue? (v : Value) :
    (ofValue? v).isSome = v.isOneOf (all.map word) := by
  cases v with
  | str s =>
    rw [ofValue?, List.isSome_find?, Value.isOneOf, List.contains_eq_any_beq, List.any_map]
    exact congrArg all.any (funext fun _ => BEq.comm)
  | _ => rfl

theorem Direction.isSome_ofValue? (v : Value) :
    (ofValue? v).isSome = v.isOneOf (all.map word) := by
  cases v with
  | str s =>
    rw [ofValue?, List.isSome_find?, Value.isOneOf, List.contains_eq_any_beq, List.any_map]
    exact congrArg all.any (funext fun _ => BEq.comm)
  | _ => rfl

namespace DraftTyping

/-- The reference that a type was given as. -/
def reference? (t : DraftTyping) : Option Value :=
  match t.type with
  | .reference r => some r
  | .data _ => none

end DraftTyping

theorem DraftBody.references_classifier (c : DraftClassifier) :
    (classifier c).references.map Prod.fst =
      c.attributes.flatMap (fun a => a.typing.reference?.toList) ++
        c.operations.flatMap fun o => o.parameters.flatMap fun p => p.typing.reference?.toList := by
  rw [references, List.map_append, List.map_flatMap, List.map_flatMap]
  congr 1
  · refine List.flatMap_congr fun a _ => ?_
    obtain ⟨heading, ⟨type, _, _, _⟩⟩ := a
    cases type <;> rfl
  · refine List.flatMap_congr fun o _ => ?_
    rw [List.map_flatMap]
    refine List.flatMap_congr fun p _ => ?_
    obtain ⟨heading, ⟨type, _, _, _⟩, direction⟩ := p
    cases type <;> rfl

namespace DocumentPart

/-- The words in the members of a part are known ones, and their types refer to something. -/
def MembersWellSaid (p : DocumentPart) : Prop :=
  (∀ e ∈ p.attributes, e.AccessKnown ∧ e.TypeRefers fun _ => True) ∧
    (∀ o ∈ p.operations, o.AccessKnown ∧ ∀ e ∈ o.objects "parameters",
      e.AccessKnown ∧ e.TypeRefers (fun _ => True) ∧ e.DirectionKnown) ∧
    ∀ e ∈ p.literals, e.AccessKnown

theorem wellSaid_iff {p : DocumentPart} :
    p.WellSaid ↔ p.entries.AccessKnown ∧ p.MembersWellSaid := by
  constructor
  · rintro ⟨access, types, directions⟩
    have parameter (o) (ho : o ∈ p.operations) (e) (he : e ∈ o.objects "parameters") :
        e ∈ p.parameters := List.mem_flatMap.mpr ⟨o, ho, he⟩
    refine ⟨access _ List.mem_cons_self, fun e he => ⟨access e ?_, types e ?_⟩,
      fun o ho => ⟨access o ?_, fun e he =>
        ⟨access e ?_, types e ?_, directions e (parameter o ho e he)⟩⟩, fun e he => access e ?_⟩
    · simp [headed, he]
    · simp [typed, he]
    · simp [headed, ho]
    · simp [headed, parameter o ho e he]
    · simp [typed, parameter o ho e he]
    · simp [headed, he]
  · rintro ⟨access, attributes, operations, literals⟩
    have parameters (e) (he : e ∈ p.parameters) :
        e.AccessKnown ∧ e.TypeRefers (fun _ => True) ∧ e.DirectionKnown := by
      obtain ⟨o, ho, he⟩ := List.mem_flatMap.mp he
      exact (operations o ho).2 e he
    refine ⟨?_, ?_, fun e he => (parameters e he).2.2⟩
    · simp only [headed, List.forall_mem_cons, List.forall_mem_append]
      exact ⟨access, ⟨⟨fun e he => (attributes e he).1, fun o ho => (operations o ho).1⟩,
        fun e he => (parameters e he).1⟩, literals⟩
    · simp only [typed, List.forall_mem_append]
      exact ⟨fun e he => (attributes e he).2, fun e he => (parameters e he).2.1⟩

end DocumentPart

namespace Draft

variable {entries : Entries}

theorem verdict_headingOf (entries : Entries) : Verdict (headingOf entries) entries.AccessKnown
    fun h => h.name = (entries.getD "name" (.str "")).orElse (.str "") := by
  have known : entries.AccessKnown ↔
      (Visibility.ofValue? (entries.getD "visibility" (.str "public"))).isSome = true := by
    rw [Visibility.isSome_ofValue?]
    exact Entries.fits_iff_getD rfl
  rw [known, headingOf]
  cases Visibility.ofValue? (entries.getD "visibility" (.str "public")) with
  | none => exact (Verdict.refuse _).congr (by simp)
  | some found => exact Verdict.congr (.pure rfl) (by simp)

theorem name_of_headingOf {heading : Heading} (text : entries.Fits "name" Value.isText)
    (h : heading.name = (entries.getD "name" (.str "")).orElse (.str "")) :
    heading.name = .str ((entries.text? "name").getD "") := by
  rw [h, Entries.getD_of_isText text, Value.orElse]
  split
  · rfl
  · rename_i empty
    have none : (entries.text? "name").getD "" = "" := by simpa [Value.truthy] using empty
    rw [none]

theorem verdict_typeOf (owner : Value) (typed : entries.Fits "type" Value.isType) :
    Verdict (typeOf entries owner) (entries.TypeRefers fun _ => True)
      fun t => (DraftTyping.mk t "" false "").reference? = entries.typeReference?.map .str := by
  rw [typeOf, Entries.TypeRefers, Entries.typeReference?, Entries.object]
  cases hv : entries.getD "type" .null with
  | obj type =>
    have text : Entries.Fits type "$ref" Value.isText := by
      rw [Entries.getD] at hv
      rw [Entries.Fits] at typed
      cases hg : entries.get? "type" with
      | none =>
        rw [hg] at hv
        cases hv
      | some v =>
        rw [hg] at hv typed
        obtain rfl : v = .obj type := hv
        exact typed
    dsimp only
    rw [Entries.get?_of_isText text, Value.entries]
    cases Entries.text? type "$ref" with
    | none => exact (Verdict.refuse _).congr (by simp [Value.isObject])
    | some reference => exact Verdict.congr (.pure rfl) (by simp)
  | _ => exact Verdict.congr (.pure rfl) (by simp [Value.isObject])

theorem verdict_typingOf (owner : Value) (typed : entries.Fits "type" Value.isType) :
    Verdict (typingOf entries owner) (entries.TypeRefers fun _ => True)
      fun t => t.reference? = entries.typeReference?.map .str := by
  rw [typingOf]
  exact (verdict_typeOf owner typed).bind_pure fun _ ht => ht

theorem verdict_attributeOf (typed : entries.Fits "type" Value.isType) :
    Verdict (attributeOf (.obj entries))
      (entries.AccessKnown ∧ entries.TypeRefers fun _ => True)
      fun a => a.typing.reference? = entries.typeReference?.map .str := by
  rw [attributeOf]
  refine .bind_ok rfl ?_
  refine (verdict_headingOf entries).bind fun heading _ _ => ?_
  exact (verdict_typingOf heading.name typed).bind_pure fun _ ht => ht

theorem verdict_parameterOf (typed : entries.Fits "type" Value.isType) :
    Verdict (parameterOf (.obj entries))
      (entries.AccessKnown ∧ entries.TypeRefers (fun _ => True) ∧ entries.DirectionKnown)
      fun p => p.typing.reference? = entries.typeReference?.map .str := by
  rw [parameterOf]
  refine .bind_ok rfl ?_
  refine (verdict_headingOf entries).bind fun heading _ _ => ?_
  refine (verdict_typingOf heading.name typed).bind fun t _ ht => ?_
  have known : entries.DirectionKnown ↔
      (Direction.ofValue? (entries.getD "direction" (.str "in"))).isSome = true := by
    rw [Direction.isSome_ofValue?]
    exact Entries.fits_iff_getD rfl
  rw [known]
  dsimp only
  cases Direction.ofValue? (entries.getD "direction" (.str "in")) with
  | none => exact (Verdict.refuse _).congr (by simp)
  | some found => exact Verdict.congr (.pure ht) (by simp)

/-- What is known of each object in a list. -/
theorem verdict_mapM_objects {β : Type} {f : Value → Except Fault β} {p : Entries → Prop}
    {q : Entries → β → Prop} {es : List Entries}
    (h : ∀ e ∈ es, Verdict (f (.obj e)) (p e) (q e)) :
    Verdict ((es.map .obj).mapM f) (∀ e ∈ es, p e) (List.Forall₂ q es) := by
  rw [List.mapM_map]
  exact .mapM h

theorem verdict_operationOf
    (listed : entries.Fits "parameters" (Value.isListOf Value.isObject))
    (typed : ∀ e ∈ entries.objects "parameters", e.Fits "type" Value.isType) :
    Verdict (operationOf (.obj entries))
      (entries.AccessKnown ∧ ∀ e ∈ entries.objects "parameters",
        e.AccessKnown ∧ e.TypeRefers (fun _ => True) ∧ e.DirectionKnown)
      fun o => List.Forall₂ (fun e p => p.typing.reference? = e.typeReference?.map .str)
        (entries.objects "parameters") o.parameters := by
  rw [operationOf]
  refine .bind_ok rfl ?_
  refine (verdict_headingOf entries).bind fun heading _ _ => ?_
  refine .bind_ok (Entries.itemsOf_eq listed) ?_
  have parameters := verdict_mapM_objects fun e he => verdict_parameterOf (typed e he)
  exact parameters.bind_pure fun _ hps => hps

/-- A literal that is a name says nothing that could be refused. -/
theorem verdict_literalOf {v : Value} (h : (v.isText || v.isObject) = true) :
    Verdict (literalOf v) v.entries.AccessKnown fun _ => True := by
  cases v with
  | str s => exact Verdict.congr (.pure trivial) (iff_of_true trivial rfl)
  | obj es => exact (verdict_headingOf es).imp Iff.rfl fun _ _ _ => trivial
  | _ => cases h

theorem verdict_literals {key : String}
    (listed : entries.Fits key (Value.isListOf fun v => v.isText || v.isObject)) :
    Verdict (itemsOf entries key >>= fun literals => literals.mapM literalOf)
      (∀ e ∈ entries.objects key, e.AccessKnown) fun _ => True := by
  rw [Entries.Fits] at listed
  rw [itemsOf, Entries.getD, Entries.objects]
  cases hv : entries.get? key with
  | none => exact Verdict.congr (.pure trivial) (by simp)
  | some v =>
    rw [hv, Option.all_some] at listed
    cases v with
    | arr items =>
      have each (v) (hv : v ∈ items) := verdict_literalOf (List.all_eq_true.mp listed v hv)
      refine .bind_ok rfl ((Verdict.mapM each).imp ?_ fun _ _ _ => trivial)
      constructor
      · intro h e he
        obtain ⟨v, hv, rfl⟩ := List.mem_map.mp he
        exact h v (List.mem_of_mem_filter hv)
      · intro h v hv
        cases v with
        | obj es => exact h es (List.mem_map.mpr ⟨.obj es, List.mem_filter.mpr ⟨hv, rfl⟩, rfl⟩)
        | _ => rfl
    | _ => cases listed

variable {p : DocumentPart}

theorem filterMap_typeReference {α : Type} {typing : α → DraftTyping} {es : List Entries}
    {xs : List α}
    (h : List.Forall₂ (fun e x => (typing x).reference? = e.typeReference?.map .str) es xs) :
    xs.flatMap (fun x => (typing x).reference?.toList) =
      (es.filterMap Entries.typeReference?).map .str := by
  rw [List.filterMap_eq_flatMap_toList, List.map_flatMap]
  refine Outcome.flatMap_eq_of_forall₂ (h.imp fun e x hx => ?_)
  rw [hx]
  cases e.typeReference? <;> rfl

/-- A classifier has the references of its attributes, and then those of its parameters. -/
theorem references_classifierOf {c : DraftClassifier}
    (attributes : List.Forall₂ (fun e a => a.typing.reference? = e.typeReference?.map .str)
      p.attributes c.attributes)
    (operations : List.Forall₂ (fun o d => List.Forall₂
      (fun e q => q.typing.reference? = e.typeReference?.map .str)
      (o.objects "parameters") d.parameters) p.operations c.operations) :
    (DraftBody.classifier c).references.map Prod.fst = p.references.map .str := by
  have parameters : c.operations.flatMap (fun o => o.parameters.flatMap fun q =>
      q.typing.reference?.toList) = (p.parameters.filterMap Entries.typeReference?).map .str := by
    rw [DocumentPart.parameters, List.filterMap_flatMap, List.map_flatMap]
    refine Outcome.flatMap_eq_of_forall₂ (operations.imp fun o d h => ?_)
    exact filterMap_typeReference h
  rw [DraftBody.references_classifier, filterMap_typeReference attributes, parameters,
    DocumentPart.references, DocumentPart.typed, List.filterMap_append, List.map_append]

theorem verdict_classifierOf {sort : ClassifierSort} (hk : p.kind = .classifier sort)
    (documented : p.Documented) :
    Verdict (classifierOf sort p.entries) p.MembersWellSaid fun c =>
      (DraftBody.classifier c).references.map Prod.fst = p.references.map .str := by
  obtain ⟨-, -, lists, parameters, typed, literals⟩ := documented
  have classifier : p.isClassifier = true := by rw [DocumentPart.isClassifier, hk]
  have attributes_eq : p.attributes = p.entries.objects "attributes" := if_pos classifier
  have operations_eq : p.operations = p.entries.objects "operations" := if_pos classifier
  have attributes := verdict_mapM_objects fun e (he : e ∈ p.attributes) =>
    verdict_attributeOf (typed e (List.mem_append_left _ he))
  have operations := verdict_mapM_objects fun o (ho : o ∈ p.operations) =>
    verdict_operationOf (parameters o ho) fun e he =>
      typed e (List.mem_append_right _ (List.mem_flatMap.mpr ⟨o, ho, he⟩))
  rw [classifierOf]
  refine .bind_ok (Entries.itemsOf_eq (lists classifier _ (by simp))) ?_
  rw [← attributes_eq]
  refine attributes.bind fun as _ has => ?_
  refine .bind_ok (Entries.itemsOf_eq (lists classifier _ (by simp))) ?_
  rw [← operations_eq]
  refine operations.bind fun os _ hos => ?_
  rw [DocumentPart.literals, hk]
  by_cases hs : sort = .enumeration
  · subst hs
    rw [if_pos rfl, if_pos rfl, ← bind_assoc]
    exact (verdict_literals (literals hk)).bind_pure fun _ _ => references_classifierOf has hos
  · rw [if_neg hs, if_neg fun h => hs (by injection h)]
    exact Verdict.congr (.pure (references_classifierOf has hos)) (by simp)

theorem verdict_bodyOf (documented : p.Documented) :
    Verdict (bodyOf p.kind p.entries) p.MembersWellSaid
      fun b => b.references.map Prod.fst = p.references.map .str := by
  have without (h : p.isClassifier = false) : p.MembersWellSaid ∧ p.references = [] := by
    have attributes : p.attributes = [] := if_neg (by simp [h])
    have operations : p.operations = [] := if_neg (by simp [h])
    have literals : p.literals = [] := by
      refine if_neg fun hk => ?_
      rw [DocumentPart.isClassifier, hk] at h
      cases h
    refine ⟨⟨?_, ?_, ?_⟩, ?_⟩
    · simp [attributes]
    · simp [operations]
    · simp [literals]
    · simp [DocumentPart.references, DocumentPart.typed, DocumentPart.parameters, attributes,
        operations]
  cases hk : p.kind with
  | classifier sort => exact (verdict_classifierOf hk documented).map fun _ _ hc => hc
  | _ =>
    obtain ⟨said, none⟩ := without (by rw [DocumentPart.isClassifier, hk])
    refine Verdict.congr (.pure ?_) (iff_of_true trivial said)
    rw [none]
    rfl

theorem ElementKind.ofValue_eq {usual : String} (h : entries.Fits "kind" Value.isText) :
    ElementKind.ofValue (entries.getD "kind" (.str usual)) =
      .ok (Document.kindOf usual entries) := by
  rw [Entries.getD_of_isText h]
  rfl

theorem verdict_register {before : List String} (distinct : before.Nodup)
    (h : entries.Fits "id" Value.isText) :
    Verdict (register (before.map .str) (entries.getD "id" .null))
      (before ++ (entries.text? "id").toList).Nodup
      fun ids => ids = (before ++ (entries.text? "id").toList).map .str := by
  rw [Entries.getD, Entries.get?_of_isText h]
  cases entries.text? "id" with
  | none =>
    refine Verdict.congr (.pure ?_) (iff_of_true trivial ?_)
    · simp
    · simpa using distinct
  | some id =>
    have taken : ((before.map Value.str).any fun v => v.sameKey (.str id)) = true ↔
        id ∈ before := by
      simp [Value.sameKey_str]
    have nodup : (before ++ [id]).Nodup ↔ ¬ id ∈ before := by
      rw [List.nodup_append_comm, List.singleton_append, List.nodup_cons, and_iff_left distinct]
    have key : (Value.str id).isKey = true := rfl
    simp only [Option.map_some, Option.getD_some, Option.toList_some, register, Value.isNull, key,
      nodup, ← taken]
    cases (before.map Value.str).any fun v => v.sameKey (.str id) with
    | true => exact (Verdict.refuse _).congr (by simp)
    | false => exact Verdict.congr (.pure (by simp)) (by simp)

/-! ## Parts within parts -/

/-- An element is named as a part is, and what encloses it as what is around the part. -/
def NamedAs (n : (ElementId × Heading) × List (ElementId × Heading)) (p : DocumentPart) : Prop :=
  n.1.2.name = .str p.name ∧ n.2.map (fun o => o.2.name) = p.around.map .str

/-- The ids that are known after parts that were read after those with the ids `before`. -/
def idsAfter (before : List String) (parts : List DocumentPart) : List String :=
  before ++ parts.filterMap DocumentPart.id?

/-- Drafts, given by their nodes and references, have the names and references of parts. -/
structure Mirrors (around : List String) (parts : List DocumentPart)
    (nodes : List (ElementId × Heading) → ElementId →
      List ((ElementId × Heading) × List (ElementId × Heading)))
    (references : List (Value × Value)) : Prop where
  names : ∀ outer next, outer.map (fun o => o.2.name) = around.map .str →
    List.Forall₂ NamedAs (nodes outer next) parts
  references : references.map Prod.fst = (parts.flatMap DocumentPart.references).map .str

/-- Parts can be read after those with the ids `before`. -/
def Readable (before : List String) (parts : List DocumentPart) : Prop :=
  (∀ p ∈ parts, p.WellSaid) ∧ (idsAfter before parts).Nodup

variable {before around : List String} {parts parts' : List DocumentPart}

theorem idsAfter_nil : idsAfter before [] = before := List.append_nil before

theorem idsAfter_append :
    idsAfter before (parts ++ parts') = idsAfter (idsAfter before parts) parts' := by
  simp [idsAfter]

theorem idsAfter_singleton : idsAfter before [p] = before ++ (p.entries.text? "id").toList := by
  rw [idsAfter, List.filterMap_cons, List.filterMap_nil, DocumentPart.id?]
  cases p.entries.text? "id" <;> rfl

theorem idsAfter_cons : idsAfter before (p :: parts) =
    idsAfter (before ++ (p.entries.text? "id").toList) parts := by
  rw [← List.singleton_append, idsAfter_append, idsAfter_singleton]

theorem readable_nil (distinct : before.Nodup) : Readable before [] := by
  refine ⟨by simp, ?_⟩
  rwa [idsAfter_nil]

theorem readable_append : Readable before (parts ++ parts') ↔
    Readable before parts ∧ Readable (idsAfter before parts) parts' := by
  have fewer (h : (idsAfter (idsAfter before parts) parts').Nodup) :
      (idsAfter before parts).Nodup := h.of_append_left
  rw [Readable, Readable, Readable, List.forall_mem_append, idsAfter_append]
  tauto

theorem readable_cons : Readable before (p :: parts) ↔ p.entries.AccessKnown ∧
    (before ++ (p.entries.text? "id").toList).Nodup ∧ p.MembersWellSaid ∧
    Readable (before ++ (p.entries.text? "id").toList) parts := by
  rw [← List.singleton_append, readable_append, idsAfter_singleton, Readable, idsAfter_singleton,
    List.forall_mem_singleton, DocumentPart.wellSaid_iff]
  tauto

theorem mirrors_nil :
    Mirrors around [] (fun outer next => nodesAll outer next []) (referencesAll []) where
  names _ _ _ := .nil
  references := rfl

theorem Mirrors.cons {d : Draft} {rest : List Draft}
    (h : Mirrors around parts d.nodes d.references)
    (h' : Mirrors around parts' (fun outer next => nodesAll outer next rest) (referencesAll rest)) :
    Mirrors around (parts ++ parts') (fun outer next => nodesAll outer next (d :: rest))
      (referencesAll (d :: rest)) where
  names outer next ho := by
    rw [nodesAll]
    exact List.rel_append (h.names outer next ho) (h'.names outer _ ho)
  references := by
    rw [referencesAll, List.map_append, h.references, h'.references, List.flatMap_append,
      List.map_append]

theorem Mirrors.node {heading : Heading} {id : Value} {body : DraftBody} {children : List Draft}
    (name : heading.name = .str p.name) (outside : p.around = around)
    (references : body.references.map Prod.fst = p.references.map .str)
    (h : Mirrors (p.name :: around) parts (fun outer next => nodesAll outer next children)
      (referencesAll children)) :
    Mirrors around (p :: parts) (node heading id body children).nodes
      (node heading id body children).references where
  names outer next ho := by
    have inside : ((next, heading) :: outer).map (fun o => o.2.name) =
        (p.name :: around).map Value.str := by
      rw [List.map_cons, List.map_cons, ho, name]
    rw [nodes]
    exact .cons ⟨name, by rw [ho, outside]⟩ (h.names _ _ inside)
  references := by
    rw [Draft.references, List.map_append, references, h.references, List.flatMap_cons,
      List.map_append]

/-- The verdict on drafts that are read from parts after those with the ids `before`. -/
def ReadsAll (before around : List String) (parts : List DocumentPart)
    (x : Except Fault (List Draft × List Value)) : Prop :=
  Verdict x (Readable before parts) fun r =>
    Mirrors around parts (fun outer next => nodesAll outer next r.1) (referencesAll r.1) ∧
      r.2 = (idsAfter before parts).map .str

theorem readsAll_nil (distinct : before.Nodup) :
    ReadsAll before around [] (.ok ([], before.map .str)) := by
  refine Verdict.congr (.pure ⟨mirrors_nil, ?_⟩) (iff_of_true trivial (readable_nil distinct))
  rw [idsAfter_nil]

mutual

theorem verdict_ofValue : ∀ (v : Value) {usual : String} {before around : List String},
    v.isObject = true → before.Nodup →
    (∀ p ∈ Document.visited usual around v, p.Documented) →
    Verdict (ofValue usual (before.map .str) v) (Readable before (Document.visited usual around v))
      fun r => Mirrors around (Document.visited usual around v) r.1.nodes r.1.references ∧
        r.2 = (idsAfter before (Document.visited usual around v)).map .str
  | .obj entries, usual, before, around, _, distinct, documented => by
    rw [ofValue]
    rw [Document.visited] at documented ⊢
    obtain ⟨here, below⟩ := List.forall_mem_cons.mp documented
    have texts := here.1
    rw [readable_cons, idsAfter_cons]
    refine .bind_ok (ElementKind.ofValue_eq (texts _ (by simp))) ?_
    refine (verdict_headingOf entries).bind fun heading _ hname => ?_
    refine (verdict_register distinct (texts _ (by simp))).bind fun ids distinct' h => ?_
    subst h
    refine (verdict_bodyOf here).bind fun body _ references => ?_
    by_cases own : mayOwn (Document.kindOf usual entries) = true
    · dsimp only at below ⊢
      rw [if_pos own] at below ⊢
      rw [if_pos own]
      have children := verdict_childrenOf entries (here.2.1 own) distinct' below
      refine (children.bind fun r _ h => .pure ⟨?_, ?_⟩).congr (and_true _).to_iff
      · exact .node (name_of_headingOf (texts _ (by simp)) hname) rfl references h.1
      · exact h.2
    · dsimp only
      rw [if_neg own, if_neg own]
      refine Verdict.congr (.pure ⟨?_, ?_⟩) (iff_of_true trivial (readable_nil distinct'))
      · exact .node (name_of_headingOf (texts _ (by simp)) hname) rfl references mirrors_nil
      · rw [idsAfter_nil]
  | .null, _, _, _, h, _, _ => by cases h
  | .bool _, _, _, _, h, _, _ => by cases h
  | .int _, _, _, _, h, _, _ => by cases h
  | .float _, _, _, _, h, _, _ => by cases h
  | .str _, _, _, _, h, _, _ => by cases h
  | .arr _, _, _, _, h, _, _ => by cases h
  | .kept _, _, _, _, h, _, _ => by cases h

theorem verdict_childrenOf : ∀ (entries : List (String × Value)) {before around : List String},
    Entries.Fits entries "elements" (Value.isListOf Value.isObject) → before.Nodup →
    (∀ p ∈ Document.visitedIn around entries, p.Documented) →
    ReadsAll before around (Document.visitedIn around entries)
      (childrenOf (before.map .str) entries)
  | [], before, around, _, distinct, _ => readsAll_nil distinct
  | (key, v) :: rest, before, around, h, distinct, documented => by
    by_cases hk : key = "elements"
    · subst hk
      rw [Document.visitedIn] at documented ⊢
      rw [childrenOf]
      refine verdict_elementsOf v ?_ distinct documented
      simpa [Entries.Fits, Entries.get?] using h
    · have other (w : Value) (hw : (key, v) = ("elements", w)) : False := hk (Prod.mk.inj hw).1
      have key_eq : ("elements" == key) = false := by simpa using Ne.symm hk
      have visited_eq : Document.visitedIn around ((key, v) :: rest) =
          Document.visitedIn around rest := by
        rw [Document.visitedIn]
        exact other
      have read_eq : childrenOf (before.map .str) ((key, v) :: rest) =
          childrenOf (before.map .str) rest := by
        rw [childrenOf]
        exact other
      rw [visited_eq] at documented ⊢
      rw [read_eq]
      refine verdict_childrenOf rest ?_ distinct documented
      simpa [Entries.Fits, Entries.get?, List.lookup_cons, key_eq] using h

theorem verdict_elementsOf : ∀ (v : Value) {before around : List String},
    v.isListOf Value.isObject = true → before.Nodup →
    (∀ p ∈ Document.visitedFrom around v, p.Documented) →
    ReadsAll before around (Document.visitedFrom around v) (elementsOf (before.map .str) v)
  | .arr items, before, around, h, distinct, documented => by
    rw [Document.visitedFrom] at documented ⊢
    rw [elementsOf]
    exact verdict_ofValues items h distinct documented
  | .null, _, _, h, _, _ => by cases h
  | .bool _, _, _, h, _, _ => by cases h
  | .int _, _, _, h, _, _ => by cases h
  | .float _, _, _, h, _, _ => by cases h
  | .str _, _, _, h, _, _ => by cases h
  | .obj _, _, _, h, _, _ => by cases h
  | .kept _, _, _, h, _, _ => by cases h

theorem verdict_ofValues : ∀ (items : List Value) {before around : List String},
    items.all Value.isObject = true → before.Nodup →
    (∀ p ∈ Document.visitedAll around items, p.Documented) →
    ReadsAll before around (Document.visitedAll around items) (ofValues (before.map .str) items)
  | [], before, around, _, distinct, _ => readsAll_nil distinct
  | v :: rest, before, around, h, distinct, documented => by
    rw [List.all_cons, Bool.and_eq_true] at h
    rw [Document.visitedAll] at documented ⊢
    obtain ⟨first, later⟩ := List.forall_mem_append.mp documented
    rw [ReadsAll, ofValues, readable_append, idsAfter_append]
    refine (verdict_ofValue v h.1 distinct first).bind fun r readable read => ?_
    obtain ⟨draft, ids⟩ := r
    obtain ⟨mirrors, hids⟩ := read
    dsimp only at mirrors hids ⊢
    subst hids
    have rest := verdict_ofValues rest h.2 readable.2 later
    refine (rest.bind fun r _ read => .pure ⟨?_, ?_⟩).congr (and_true _).to_iff
    · exact mirrors.cons read.1
    · exact read.2

end

end Draft

end GosuForge
