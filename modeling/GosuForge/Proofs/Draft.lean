import GosuForge.Proofs.Placement

/-!
# Drafts and documents

* `Draft.ofValue_eq_ok`: what a part of a document is that was read as a draft;
* `Draft.wellFormed_of_ofValue`: what is read is a tree that can be numbered;
* `Draft.ids_of_ofValue`: the ids that were read are those of the draft, each of them once.
-/

namespace GosuForge

theorem Value.sameKey_str {v : Value} {s : String} : v.sameKey (.str s) = true ↔ v = .str s := by
  cases v <;> simp [sameKey, numeral?]

namespace Draft

theorem entriesOf_eq_ok {v : Value} {entries : Entries} :
    entriesOf v = .ok entries ↔ v = .obj entries := by
  cases v <;> simp [entriesOf]

/-- A part that is listed among the elements of another one was read as a draft. -/
def IsReadAs (v : Value) (d : Draft) : Prop := ∃ ids ids', ofValue "class" ids v = .ok (d, ids')

theorem elementsOf_eq_ok {ids ids' : List Value} {v : Value} {children : List Draft}
    (h : elementsOf ids v = .ok (children, ids')) :
    ∃ items, v.items? = some items ∧ ofValues ids items = .ok (children, ids') := by
  cases v with
  | arr items => exact ⟨items, rfl, by rwa [elementsOf] at h⟩
  | str s =>
    rw [elementsOf] at h
    split at h
    · rename_i hs
      subst hs
      exact ⟨[], rfl, by rwa [ofValues]⟩
    · cases h
  | obj entries =>
    rw [elementsOf] at h
    split at h
    · rename_i he
      rw [List.isEmpty_iff.mp he]
      exact ⟨[], rfl, by rwa [ofValues]⟩
    · cases h
  | _ => cases h

theorem childrenOf_eq_ok {ids ids' : List Value} {entries : Entries} {children : List Draft}
    (h : childrenOf ids entries = .ok (children, ids')) :
    ∃ items, itemsOf entries "elements" = .ok items ∧ ofValues ids items = .ok (children, ids') := by
  induction entries with
  | nil => exact ⟨[], rfl, h⟩
  | cons entry rest ih =>
    obtain ⟨key, v⟩ := entry
    by_cases hk : key = "elements"
    · subst hk
      rw [childrenOf] at h
      obtain ⟨items, hi, hv⟩ := elementsOf_eq_ok h
      exact ⟨items, by simp [itemsOf, Entries.getD, Entries.get?, hi], hv⟩
    · rw [childrenOf] at h
      · obtain ⟨items, hi, hv⟩ := ih h
        have hb : ("elements" == key) = false := by simpa using Ne.symm hk
        refine ⟨items, ?_, hv⟩
        simpa [itemsOf, Entries.getD, Entries.get?, List.lookup_cons, hb] using hi
      · exact fun _ hk' => hk (Prod.mk.inj hk').1

theorem ofValues_eq_cons {ids ids' : List Value} {items : List Value} {d : Draft}
    {rest : List Draft} (h : ofValues ids items = .ok (d :: rest, ids')) :
    ∃ v vs ids₁, items = v :: vs ∧ ofValue "class" ids v = .ok (d, ids₁) ∧
      ofValues ids₁ vs = .ok (rest, ids') := by
  cases items with
  | nil => cases h
  | cons v vs =>
    rw [ofValues, Outcome.bind_eq_ok] at h
    obtain ⟨⟨draft, ids₁⟩, hd, h⟩ := h
    obtain ⟨⟨drafts, ids₂⟩, hr, h⟩ := Outcome.bind_eq_ok.mp h
    cases h
    exact ⟨v, vs, ids₁, rfl, hd, hr⟩

theorem ofValues_eq_ok {ids ids' : List Value} {items : List Value} {children : List Draft}
    (h : ofValues ids items = .ok (children, ids')) :
    List.Forall₂ IsReadAs items children := by
  induction items generalizing ids children with
  | nil =>
    rw [ofValues] at h
    cases h
    exact .nil
  | cons v rest ih =>
    rw [ofValues, Outcome.bind_eq_ok] at h
    obtain ⟨⟨draft, ids₁⟩, hd, h⟩ := h
    obtain ⟨⟨drafts, ids₂⟩, hr, h⟩ := Outcome.bind_eq_ok.mp h
    cases h
    exact .cons ⟨ids, ids₁, hd⟩ (ih hr)

/-- What a part of a document says that was read as a draft. -/
theorem ofValue_eq_ok {usual : String} {ids ids' : List Value} {v : Value} {d : Draft}
    (h : ofValue usual ids v = .ok (d, ids')) :
    ∃ (entries : Entries) (kind : ElementKind) (heading : Heading) (body : DraftBody)
      (children : List Draft) (ids₁ : List Value), v = .obj entries ∧
      ElementKind.ofValue (entries.getD "kind" (.str usual)) = .ok kind ∧
      headingOf entries = .ok heading ∧ bodyOf kind entries = .ok body ∧
      register ids (entries.getD "id" .null) = .ok ids₁ ∧
      d = node heading (entries.getD "id" .null) body children ∧
      (mayOwn kind = false ∧ children = [] ∧ ids' = ids₁ ∨
        mayOwn kind = true ∧ ∃ items, itemsOf entries "elements" = .ok items ∧
          ofValues ids₁ items = .ok (children, ids')) := by
  cases v with
  | obj entries =>
    rw [ofValue, Outcome.bind_eq_ok] at h
    obtain ⟨kind, hk, h⟩ := h
    obtain ⟨heading, hh, h⟩ := Outcome.bind_eq_ok.mp h
    obtain ⟨ids₁, hi, h⟩ := Outcome.bind_eq_ok.mp h
    obtain ⟨body, hb, h⟩ := Outcome.bind_eq_ok.mp h
    split at h
    · rename_i ho
      obtain ⟨⟨children, ids₂⟩, hc, h⟩ := Outcome.bind_eq_ok.mp h
      cases h
      obtain ⟨items, hitems, hv⟩ := childrenOf_eq_ok hc
      exact ⟨entries, kind, heading, body, children, ids₁, rfl, hk, hh, hb, hi, rfl,
        Or.inr ⟨ho, items, hitems, hv⟩⟩
    · rename_i ho
      cases h
      exact ⟨entries, kind, heading, body, [], _, rfl, hk, hh, hb, hi, rfl,
        Or.inl ⟨by simpa using ho, rfl, rfl⟩⟩
  | _ => cases h

/-! ## Trees and ids -/

theorem bodyOf_eq_plain {kind : ElementKind} {entries : Entries}
    (h : bodyOf kind entries = .ok .plain) : kind = .plain := by
  cases kind with
  | plain => rfl
  | package => cases h
  | classifier sort =>
    obtain ⟨c, -, hc⟩ := Outcome.map_eq_ok.mp h
    cases hc

mutual

theorem wellFormed_of_ofValue : ∀ (d : Draft) {usual : String} {ids ids' : List Value} {v : Value},
    ofValue usual ids v = .ok (d, ids') → d.WellFormed
  | node heading id body children, usual, ids, ids', v, h => by
    obtain ⟨entries, kind, heading', body', children', ids₁, -, -, -, hb, -, hd, hc⟩ :=
      ofValue_eq_ok h
    cases hd
    rw [WellFormed]
    rcases hc with ⟨-, rfl, -⟩ | ⟨ho, items, -, hv⟩
    · exact ⟨fun _ => rfl, trivial⟩
    · refine ⟨fun hp => ?_, allWellFormed_of_ofValues children hv⟩
      rw [hp] at hb
      rw [bodyOf_eq_plain hb] at ho
      cases ho

theorem allWellFormed_of_ofValues : ∀ (ds : List Draft) {ids ids' : List Value}
    {items : List Value}, ofValues ids items = .ok (ds, ids') → AllWellFormed ds
  | [], _, _, _, _ => trivial
  | d :: rest, ids, ids', items, h => by
    obtain ⟨v, vs, ids₁, rfl, hd, hr⟩ := ofValues_eq_cons h
    exact ⟨wellFormed_of_ofValue d hd, allWellFormed_of_ofValues rest hr⟩

end

/-- No two of the keys are the same. -/
def Distinct (ids : List Value) : Prop := ids.Pairwise fun v w => v.sameKey w = false

theorem register_eq_ok {ids ids' : List Value} {id : Value} (h : register ids id = .ok ids') :
    ids' = ids ++ (if id.isNull then [] else [id]) ∧ (Distinct ids → Distinct ids') := by
  rw [register] at h
  split at h
  · rename_i hn
    cases h
    exact ⟨by simp [hn], fun hd => hd⟩
  · rename_i hn
    split at h
    · cases h
    · split at h
      · cases h
      · rename_i hs
        cases h
        refine ⟨by simp [hn], fun hd => List.pairwise_append.mpr ⟨hd, List.pairwise_singleton _ _, ?_⟩⟩
        intro v hv w hw
        rw [List.mem_singleton.mp hw]
        simp only [List.any_eq_true, not_exists, not_and, Bool.not_eq_true] at hs
        exact hs v hv

mutual

/-- The ids that are known after a draft are those known before and its own, all of them distinct. -/
theorem ids_of_ofValue : ∀ (d : Draft) {usual : String} {ids ids' : List Value} {v : Value}
    (next : ElementId), ofValue usual ids v = .ok (d, ids') →
      ids' = ids ++ (d.identified next).map Prod.fst ∧ (Distinct ids → Distinct ids')
  | node heading id body children, usual, ids, ids', v, next, h => by
    obtain ⟨entries, kind, heading', body', children', ids₁, -, -, -, -, hr, hd, hc⟩ :=
      ofValue_eq_ok h
    cases hd
    obtain ⟨rfl, hdistinct⟩ := register_eq_ok hr
    have ids_eq : ((node heading (entries.getD "id" .null) body children).identified next).map
        Prod.fst = (if (entries.getD "id" .null).isNull then [] else [entries.getD "id" .null]) ++
          (identifiedAll (next + 1 + body.size) children).map Prod.fst := by
      rw [identified, List.map_append]
      split <;> rfl
    rw [ids_eq]
    rcases hc with ⟨-, rfl, rfl⟩ | ⟨-, items, -, hv⟩
    · exact ⟨by simp [identifiedAll], hdistinct⟩
    · obtain ⟨rfl, hdistinct'⟩ := ids_of_ofValues children (next + 1 + body.size) hv
      exact ⟨by rw [List.append_assoc], fun h => hdistinct' (hdistinct h)⟩

theorem ids_of_ofValues : ∀ (ds : List Draft) {ids ids' : List Value} {items : List Value}
    (next : ElementId), ofValues ids items = .ok (ds, ids') →
      ids' = ids ++ (identifiedAll next ds).map Prod.fst ∧ (Distinct ids → Distinct ids')
  | [], ids, ids', items, next, h => by
    cases items with
    | nil =>
      cases h
      exact ⟨by simp [identifiedAll], fun hd => hd⟩
    | cons v vs =>
      rw [ofValues, Outcome.bind_eq_ok] at h
      obtain ⟨⟨draft, ids₁⟩, -, h⟩ := h
      obtain ⟨⟨drafts, ids₂⟩, -, h⟩ := Outcome.bind_eq_ok.mp h
      cases h
  | d :: rest, ids, ids', items, next, h => by
    obtain ⟨v, vs, ids₁, rfl, hd, hr⟩ := ofValues_eq_cons h
    obtain ⟨rfl, hdistinct⟩ := ids_of_ofValue d next hd
    obtain ⟨rfl, hdistinct'⟩ := ids_of_ofValues rest (next + d.size) hr
    exact ⟨by simp [identifiedAll], fun h => hdistinct' (hdistinct h)⟩

end

end Draft

end GosuForge
