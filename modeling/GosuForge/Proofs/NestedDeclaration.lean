import GosuForge.Proofs.DeclarationLayout

/-!
# Declarations nested in declarations

* `Declaration.LaidOut`: the layout of an element's declaration when it is written on its own;
* `Declaration.nestedScript_layout`: what is nested in an element has the layouts of the elements
  that it owns, each with an empty line behind it.

A declaration has one layout for all writers, in which the elements that it owns are laid out as they
are on their own. An enumeration is the one form that leaves out what it owns.
-/

namespace GosuForge

open Inspection Script

namespace Declaration

/-- Whether an element is declared where it is owned: it has a name and a form. -/
def isDeclared (m : Model) (id : ElementId) : Bool :=
  (m.get id).isNamed && (DeclarationForm.of? (m.get id)).isSome

/-- The declaration of an element has the layout `l` when it is written on its own. -/
def LaidOut (r : Repository) (g : GosuSettings) (m : Model) (id : ElementId) (l : Layout) : Prop :=
  ∃ form s, DeclarationForm.of? (m.get id) = some form ∧
    (script r g form id).answerIn m = .ok s ∧ s.layout = l

variable {r : Repository} {g : GosuSettings} {m : Model}

theorem answerIn_around (plain : m.PlainlyNamed) {own nested : Inspection Script} (ho : Keeps own)
    (hn : Keeps nested) {s : Script} :
    (around own nested).answerIn m = .ok s ↔
      ∃ o n, own.answerIn m = .ok o ∧ nested.answerIn m = .ok n ∧ s = o ++ n ++ close := by
  rw [around, ho.answerIn_bind plain, Outcome.bind_eq_ok]
  simp only [hn.answerIn_bind plain, Outcome.bind_eq_ok, answerIn_pure, Except.ok.injEq]
  constructor
  · rintro ⟨o, ho, n, hn, rfl⟩
    exact ⟨o, n, ho, hn, rfl⟩
  · rintro ⟨o, n, ho, hn, rfl⟩
    exact ⟨o, ho, n, hn, rfl⟩

/-- Of what is nested only the answer counts. -/
theorem answerIn_scriptFor_of_imp (plain : m.PlainlyNamed) {form : DeclarationForm} {id : ElementId}
    {nested nested' : Inspection Script} (hn : Keeps nested) (hn' : Keeps nested')
    (imp : ∀ n, nested.answerIn m = .ok n → nested'.answerIn m = .ok n) {s : Script}
    (h : (scriptFor r g form id nested).answerIn m = .ok s) :
    (scriptFor r g form id nested').answerIn m = .ok s := by
  by_cases hf : form = .enumeration
  · subst hf
    exact h
  · obtain ⟨own, ho, -, e⟩ := exists_scriptFor_eq_around r g hf id
    rw [e, answerIn_around plain ho hn] at h
    obtain ⟨o, n, hown, hnested, rfl⟩ := h
    rw [e, answerIn_around plain ho hn']
    exact ⟨o, n, hown, imp n hnested, rfl⟩

/-- What is written for an owned element: its declaration, or nothing. -/
theorem answerIn_ownedScript (plain : m.PlainlyNamed) {child : ElementId}
    {nested : Inspection Script} (hn : Keeps nested) {s : Script}
    (h : (ownedScript r g m child nested).answerIn m = .ok s) :
    isDeclared m child = false ∧ s = [] ∨
      isDeclared m child = true ∧ ∃ form t, DeclarationForm.of? (m.get child) = some form ∧
        (scriptFor r g form child nested).answerIn m = .ok t ∧ s = t ++ [.line ""] := by
  rw [ownedScript, (Keeps.lift _).answerIn_bind plain, answerIn_lift, Outcome.bind_eq_ok] at h
  obtain ⟨e, he, h⟩ := h
  have he : e = m.get child := by
    unfold Model.read at he
    split at he
    · cases he
    · exact (Except.ok.inj he).symm
  subst he
  split at h
  · rename_i hf
    cases h
    exact Or.inl ⟨by simp [isDeclared, hf], rfl⟩
  · rename_i form hf
    split at h
    · rename_i hnamed
      cases h
      exact Or.inl ⟨by simp_all [isDeclared], rfl⟩
    · rename_i hnamed
      rw [(scriptFor_keeps r g form child hn).answerIn_bind plain, Outcome.bind_eq_ok] at h
      obtain ⟨t, ht, h⟩ := h
      cases h
      exact Or.inr ⟨by simpa [isDeclared, hf] using hnamed, form, t, hf, ht, rfl⟩

theorem answerIn_ownedScript_of_imp (plain : m.PlainlyNamed) {child : ElementId}
    {nested nested' : Inspection Script} (hn : Keeps nested) (hn' : Keeps nested')
    (imp : ∀ n, nested.answerIn m = .ok n → nested'.answerIn m = .ok n) {s : Script}
    (h : (ownedScript r g m child nested).answerIn m = .ok s) :
    (ownedScript r g m child nested').answerIn m = .ok s := by
  rw [ownedScript, (Keeps.lift _).answerIn_bind plain, Outcome.bind_eq_ok] at h ⊢
  obtain ⟨e, he, h⟩ := h
  refine ⟨e, he, ?_⟩
  split at h
  · exact h
  · rename_i form _
    by_cases hnamed : (!e.isNamed) = true
    · simpa [hnamed] using h
    · simp only [hnamed, Bool.false_eq_true, if_false] at h ⊢
      rw [(scriptFor_keeps r g form child hn).answerIn_bind plain, Outcome.bind_eq_ok] at h
      rw [(scriptFor_keeps r g form child hn').answerIn_bind plain, Outcome.bind_eq_ok]
      obtain ⟨t, ht, h⟩ := h
      exact ⟨t, answerIn_scriptFor_of_imp plain hn hn' imp ht, h⟩

theorem answerIn_nestedScript_succ (plain : m.PlainlyNamed) {fuel : Nat} {id : ElementId}
    {s : Script} :
    (nestedScript r g (fuel + 1) id).answerIn m = .ok s ↔
      ∃ owned scripts, Members.given (m.get id).owned? = .ok owned ∧
        owned.mapM (fun child =>
          (ownedScript r g m child (nestedScript r g fuel child)).answerIn m) = .ok scripts ∧
        s = scripts.flatten := by
  have owning (child : ElementId) : Keeps (ownedScript r g m child (nestedScript r g fuel child)) :=
    ownedScript_keeps r g m child (nestedScript_keeps r g fuel child)
  rw [nestedScript, answerIn_get_bind, (Keeps.lift _).answerIn_bind plain, answerIn_lift,
    Outcome.bind_eq_ok]
  simp only [(Keeps.mapM _ fun child _ => owning child).answerIn_bind plain,
    Keeps.answerIn_mapM plain _ fun child _ => owning child, Outcome.bind_eq_ok, answerIn_pure,
    Except.ok.injEq]
  constructor
  · rintro ⟨owned, ho, scripts, hs, rfl⟩
    exact ⟨owned, scripts, ho, hs, rfl⟩
  · rintro ⟨owned, scripts, ho, hs, rfl⟩
    exact ⟨owned, ho, scripts, hs, rfl⟩

/-- What was nested deep enough is so at every greater depth. -/
theorem answerIn_nestedScript_mono (plain : m.PlainlyNamed) {fuel fuel' : Nat}
    (hle : fuel ≤ fuel') {id : ElementId} {s : Script}
    (h : (nestedScript r g fuel id).answerIn m = .ok s) :
    (nestedScript r g fuel' id).answerIn m = .ok s := by
  induction fuel generalizing id s fuel' with
  | zero => cases h
  | succ fuel ih =>
    obtain ⟨k, rfl⟩ : ∃ k, fuel' = k + 1 := ⟨fuel' - 1, by omega⟩
    obtain ⟨owned, scripts, ho, hs, rfl⟩ := (answerIn_nestedScript_succ plain).mp h
    refine (answerIn_nestedScript_succ plain).mpr ⟨owned, scripts, ho, ?_, rfl⟩
    refine Outcome.mapM_eq_ok_of_imp (fun child _ t ht => ?_) hs
    refine answerIn_ownedScript_of_imp plain (nestedScript_keeps r g fuel child)
      (nestedScript_keeps r g k child) (fun n hn => ?_) ht
    exact ih (Nat.le_of_succ_le_succ hle) hn

/-- Declarations of owned elements, each with an empty line behind it. -/
def nestedLayout (parts : List Layout) : Layout := parts.flatMap fun l => l ++ [(0, "")]

/-- A declaration that is nested somewhere is the one written on its own, where it may go deeper. -/
theorem laidOut_of_nested (plain : m.PlainlyNamed) {fuel : Nat} (hfuel : fuel ≤ m.depth)
    {form : DeclarationForm} {id : ElementId} (hf : DeclarationForm.of? (m.get id) = some form)
    {s : Script} (h : (scriptFor r g form id (nestedScript r g fuel id)).answerIn m = .ok s) :
    LaidOut r g m id s.layout ∧ Balanced s := by
  have alone : (script r g form id).answerIn m = .ok s := by
    rw [script, answerIn_get_bind]
    refine answerIn_scriptFor_of_imp plain (nestedScript_keeps r g fuel id)
      (nestedScript_keeps r g _ id) (fun n hn => ?_) h
    exact answerIn_nestedScript_mono plain hfuel hn
  exact ⟨⟨form, s, hf, alone, rfl⟩, (script_balanced r g form id).holds alone⟩

/-- What is nested in an element: the layouts of the declared elements that it owns, in order. -/
theorem nestedScript_layout (plain : m.PlainlyNamed) {fuel : Nat} (hfuel : fuel ≤ m.depth)
    {id : ElementId} {s : Script} (h : (nestedScript r g fuel id).answerIn m = .ok s) :
    ∃ owned parts, Members.given (m.get id).owned? = .ok owned ∧
      List.Forall₂ (LaidOut r g m) (owned.filter (isDeclared m)) parts ∧
      layout s = nestedLayout parts := by
  cases fuel with
  | zero => cases h
  | succ fuel =>
    obtain ⟨owned, scripts, ho, hs, rfl⟩ := (answerIn_nestedScript_succ plain).mp h
    suffices ∃ parts, List.Forall₂ (LaidOut r g m) (owned.filter (isDeclared m)) parts ∧
        layout scripts.flatten = nestedLayout parts from
      let ⟨parts, hp, hl⟩ := this
      ⟨owned, parts, ho, hp, hl⟩
    clear ho h
    rw [Outcome.mapM_eq_ok] at hs
    induction hs with
    | nil => exact ⟨[], .nil, rfl⟩
    | @cons child t owned scripts ht _ ih =>
      obtain ⟨parts, hp, hl⟩ := ih
      rcases answerIn_ownedScript plain (nestedScript_keeps r g fuel child) ht with
        ⟨hd, rfl⟩ | ⟨hd, form, t, hf, hs, rfl⟩
      · refine ⟨parts, ?_, hl⟩
        rwa [List.filter_cons_of_neg (by simp [hd])]
      · obtain ⟨alone, balanced⟩ := laidOut_of_nested plain (Nat.le_of_succ_le hfuel) hf hs
        refine ⟨layout t :: parts, ?_, ?_⟩
        · rw [List.filter_cons_of_pos hd]
          exact .cons alone hp
        · have spaced := balanced.append (.line "")
          rw [List.flatten_cons, spaced.layout_append, balanced.layout_append, hl]
          rfl

theorem nestedLayout_shift (levels : Nat) (parts : List Layout) :
    (nestedLayout parts).shift levels = parts.flatMap fun l => l.shift levels ++ [(levels, "")] := by
  induction parts with
  | nil => rfl
  | cons l parts ih =>
    simp only [nestedLayout, List.flatMap_cons, Layout.shift_append] at ih ⊢
    rw [ih]
    simp [Layout.shift]

/-- A body with something in it, laid out. -/
theorem around_layout {own nested : Script} (ho : Opens own) (hn : Balanced nested) :
    layout (own ++ nested ++ close)
      = own.layout ++ nested.layout.shift 1 ++ [(0, "\x7d")] := by
  rw [(ho.append hn).layout_append, ho.layout_append, hn.layoutFrom 1]
  rfl

/-- **Layouts are compositional.** A declaration has one layout: a writer of any depth, indentation
and earlier lines gets its lines at its own depth, and keeps that depth. An enumeration is the same
whatever might be nested in it. In every other form the elements that it owns stand, each laid out as
it is on its own, one level deeper between the end and what is written without them. -/
theorem script_layout {form : DeclarationForm} {id : ElementId} {s : Script}
    (h : (script r g form id).answerIn m = .ok s) :
    (∀ w : Writer, w.run s =
      .ok { w with lines := w.lines ++ s.layout.linesAt w.indentText w.depth }) ∧
    (form = .enumeration → ∀ nested, (scriptFor r g form id nested).answerIn m = .ok s) ∧
    (m.PlainlyNamed → form ≠ .enumeration → ∃ own owned parts,
      (scriptFor r g form id (pure [])).answerIn m = .ok (own ++ close) ∧
      Members.given (m.get id).owned? = .ok owned ∧
      List.Forall₂ (LaidOut r g m) (owned.filter (isDeclared m)) parts ∧
      s.layout = own.layout ++ parts.flatMap (fun l => l.shift 1 ++ [(1, "")])
        ++ [(0, "\x7d")]) := by
  refine ⟨fun w => Writer.run_of_balanced ((script_balanced r g form id).holds h) w, ?_, ?_⟩
  · rintro rfl nested
    exact h
  · intro plain hf
    rw [script, answerIn_get_bind] at h
    have hk := nestedScript_keeps r g m.depth id
    obtain ⟨own, ho, opens, e⟩ := exists_scriptFor_eq_around r g hf id
    rw [e, answerIn_around plain ho hk] at h
    obtain ⟨o, n, hown, hnested, rfl⟩ := h
    obtain ⟨owned, parts, howned, hparts, hl⟩ := nestedScript_layout plain (Nat.le_refl _) hnested
    refine ⟨o, owned, parts, ?_, howned, hparts, ?_⟩
    · rw [e, answerIn_around plain ho (.pure [])]
      exact ⟨o, [], hown, rfl, by rw [List.append_nil]⟩
    · have balanced := (nestedScript_balanced r g m.depth id).holds hnested
      rw [around_layout (opens.holds hown) balanced, hl, nestedLayout_shift]

end Declaration

/-! ## A class with an interface, and an enumeration with another one nested in it -/

/-- A class that owns an interface and an enumeration; the enumeration owns another one. -/
def nestedModel : Model :=
  ⟨#[.newNamed "A" none (.classifier { Classifier.new .classSort with owned := [1, 2] }),
     .newNamed "I" (some 0) (.classifier (.new .interface)),
     .newNamed "E" (some 0) (.classifier { Classifier.new .enumeration with owned := [3] }),
     .newNamed "F" (some 2) (.classifier (.new .enumeration))]⟩

theorem nestedModel_plainlyNamed : nestedModel.PlainlyNamed := by
  refine Model.plainlyNamed_of_texts fun e he => ?_
  simp only [nestedModel, Array.mem_def, List.mem_cons, List.not_mem_nil, or_false] at he
  rcases he with rfl | rfl | rfl | rfl <;> exact ⟨_, rfl⟩

namespace Declaration

theorem script_layout_nestedModel : ∃ s,
    nestedModel.PlainlyNamed ∧ (script [] .standard .classForm 0).answerIn nestedModel = .ok s ∧
    (∀ w : Writer, w.run s =
      .ok { w with lines := w.lines ++ s.layout.linesAt w.indentText w.depth }) ∧
    ∃ own owned parts,
      (scriptFor [] .standard .classForm 0 (pure [])).answerIn nestedModel = .ok (own ++ close) ∧
      Members.given (nestedModel.get 0).owned? = .ok owned ∧
      List.Forall₂ (LaidOut [] .standard nestedModel)
        (owned.filter (isDeclared nestedModel)) parts ∧
      s.layout = own.layout ++ parts.flatMap (fun l => l.shift 1 ++ [(1, "")])
        ++ [(0, "\x7d")] := by
  obtain ⟨s, h⟩ : ∃ s, (script [] .standard .classForm 0).answerIn nestedModel = .ok s :=
    ⟨_, rfl⟩
  obtain ⟨hw, -, hn⟩ := script_layout h
  exact ⟨s, nestedModel_plainlyNamed, h, hw, hn nestedModel_plainlyNamed (by decide)⟩

/-- What an enumeration owns has no place in its layout, although it is declared. -/
theorem enumeration_leaves_out_owned : ∃ s l,
    DeclarationForm.of? (nestedModel.get 2) = some .enumeration ∧
    (script [] .standard .enumeration 2).answerIn nestedModel = .ok s ∧
    Members.given (nestedModel.get 2).owned? = .ok [3] ∧ isDeclared nestedModel 3 = true ∧
    LaidOut [] .standard nestedModel 3 l ∧
    ¬ ∃ before after, s.layout = before ++ (l.shift 1 ++ [(1, "")]) ++ after := by
  refine ⟨[.line "enum E \x7b", .indent, .outdent, .line "\x7d"],
    [(0, "enum F \x7b"), (0, "\x7d")], rfl, rfl, rfl, rfl, ?_, ?_⟩
  · exact ⟨.enumeration, [.line "enum F \x7b", .indent, .outdent, .line "\x7d"],
      rfl, rfl, rfl⟩
  · rintro ⟨before, after, h⟩
    have hf : (1, "enum F \x7b") ∈ layout [.line "enum E \x7b", .indent, .outdent, .line "\x7d"] := by
      rw [h]
      simp [Layout.shift]
    simp [layoutFrom] at hf

end Declaration

end GosuForge
