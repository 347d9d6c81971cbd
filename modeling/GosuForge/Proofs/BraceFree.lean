import GosuForge.Proofs.Association
import GosuForge.Proofs.BraceNesting
import GosuForge.Proofs.DeclarationLayout
import GosuForge.Proofs.Function
import GosuForge.Proofs.Path

/-!
# Members without braces of their own

Where the texts of an element hold no braces, the only ones in what is written for it are those around
bodies.

* `Text.BraceFree`, `Text.EndsPlainly`: texts without braces, and texts that do not end with one;
* `Element.BraceFree`: what is asked of an element;
* `Inspection.StaysIn`: an inspection that leaves a model as it is and whose answers satisfy a predicate;
* `Member.variableFor_nests`, `Member.method_nests`: members are written with nested lines.
-/

namespace GosuForge

namespace Text

/-- No brace stands in the text. -/
def BraceFree (text : String) : Prop := '\x7b' ∉ text.toList ∧ '\x7d' ∉ text.toList

instance : DecidablePred BraceFree := fun _ => inferInstanceAs (Decidable (_ ∧ _))

/-- The last character is no brace. -/
def EndsPlainly (text : String) : Prop :=
  text.toList.getLast? ≠ some '\x7b' ∧ text.toList.getLast? ≠ some '\x7d'

instance : DecidablePred EndsPlainly := fun _ => inferInstanceAs (Decidable (_ ∧ _))

namespace BraceFree

variable {s t : String}

theorem of_subset (h : BraceFree s) (sub : t.toList ⊆ s.toList) : BraceFree t :=
  ⟨fun c => h.1 (sub c), fun c => h.2 (sub c)⟩

theorem append (hs : BraceFree s) (ht : BraceFree t) : BraceFree (s ++ t) := by
  rw [BraceFree, String.toList_append, List.mem_append, List.mem_append, not_or, not_or]
  exact ⟨⟨hs.1, ht.1⟩, hs.2, ht.2⟩

theorem concat {texts : List String} (h : ∀ text ∈ texts, BraceFree text) :
    BraceFree (texts.foldr (· ++ ·) "") := by
  induction texts with
  | nil => decide
  | cons text texts ih =>
    obtain ⟨first, others⟩ := List.forall_mem_cons.mp h
    exact first.append (ih others)

theorem trim (h : BraceFree s) : BraceFree (trim s) := by
  refine h.of_subset fun c hc => ?_
  rw [Text.trim, String.toList_ofList, trimChars, List.mem_reverse] at hc
  have hc := (List.dropWhile_sublist _).subset hc
  exact (List.dropWhile_sublist _).subset (List.mem_reverse.mp hc)

theorem of_mem_splitLines (h : BraceFree s) (ht : t ∈ splitLines s) : BraceFree t := by
  obtain ⟨part, hp, rfl⟩ := List.mem_map.mp ht
  refine h.of_subset fun c hc => ?_
  rw [String.toList_ofList] at hc
  exact mem_of_mem_splitChars hp hc

theorem endsPlainly (h : BraceFree s) : EndsPlainly s :=
  ⟨fun e => h.1 (List.mem_of_getLast? e), fun e => h.2 (List.mem_of_getLast? e)⟩

end BraceFree

namespace EndsPlainly

variable {s t : String}

theorem append (hs : EndsPlainly s) (ht : EndsPlainly t) : EndsPlainly (s ++ t) := by
  rw [EndsPlainly, String.toList_append, List.getLast?_append]
  cases h : t.toList.getLast? with
  | none => exact hs
  | some c =>
    rw [EndsPlainly, h] at ht
    exact ht

/-- After a text that does not end a line. -/
theorem append_right (ht : EndsPlainly t) (some : t ≠ "") (s : String) : EndsPlainly (s ++ t) := by
  have nonempty : t.toList ≠ [] := by simpa using some
  rw [EndsPlainly, List.getLast?_eq_some_getLast nonempty] at ht
  rw [EndsPlainly, String.toList_append, List.getLast?_append,
    List.getLast?_eq_some_getLast nonempty]
  exact ht

/-- Whatever stands before it, the last of the words of a line ends it. -/
theorem join (ht : EndsPlainly t) (texts : List String) : EndsPlainly (join " " (texts ++ [t])) := by
  induction texts with
  | nil => exact ht
  | cons text texts ih =>
    obtain ⟨next, rest, e⟩ : ∃ next rest, texts ++ [t] = next :: rest := by
      cases texts <;> exact ⟨_, _, rfl⟩
    have spaced : EndsPlainly (text ++ " ") := append_right (by decide) (by decide) text
    rw [e] at ih
    rw [List.cons_append, e, Text.join]
    exact spaced.append ih

theorem nests (h : EndsPlainly s) : Script.Nests [.line s] := by
  refine .line h.1 ?_
  rintro rfl
  exact h.2 rfl

end EndsPlainly

end Text

open Script (Nests)
open Text (BraceFree EndsPlainly OpensBrace)

namespace Inspection

/-- What an inspection of a model answers satisfies a predicate, and the model is as it was then. -/
def StaysIn {α : Type} (m : Model) (p : α → Prop) (i : Inspection α) : Prop :=
  ∀ x m', i.runIn m = (.ok x, m') → p x ∧ m' = m

namespace StaysIn

variable {α β : Type} {m : Model} {p : α → Prop} {q : β → Prop} {i : Inspection α}
  {f : α → Inspection β}

theorem pure {x : α} (h : p x) : StaysIn m p (pure x) := by
  rintro _ _ ⟨⟩
  exact ⟨h, rfl⟩

theorem throw (fault : Fault) : StaysIn m p (throw fault) := nofun

theorem lift {x : Except Fault α} (h : ∀ y, x = .ok y → p y) : StaysIn m p (liftM x) := by
  intro y m' answered
  rw [runIn_lift] at answered
  cases answered
  exact ⟨h y rfl, rfl⟩

theorem get : StaysIn m (· = m) get := by
  rintro _ _ ⟨⟩
  exact ⟨rfl, rfl⟩

theorem bind (hi : StaysIn m p i) (hf : ∀ x, p x → StaysIn m q (f x)) : StaysIn m q (i >>= f) := by
  intro y m' answered
  rw [runIn_bind] at answered
  rcases first : i.runIn m with ⟨fault | x, between⟩
  · rw [first] at answered
    cases answered
  · obtain ⟨hx, rfl⟩ := hi x between first
    rw [first] at answered
    exact hf x hx y m' answered

/-- Steps that begin with a look at the model. -/
theorem look {f : Model → Inspection β} (hf : StaysIn m q (f m)) : StaysIn m q (MonadState.get >>= f) :=
  bind get fun _ e => e ▸ hf

/-- A first step that does not look at the model. -/
theorem after {x : Except Fault α} (hf : ∀ y, x = .ok y → StaysIn m q (f y)) :
    StaysIn m q (liftM x >>= f) :=
  bind (lift fun _ e => e) hf

theorem imp {p' : α → Prop} (h : StaysIn m p i) (hp : ∀ x, p x → p' x) : StaysIn m p' i :=
  fun x m' answered => ⟨hp x (h x m' answered).1, (h x m' answered).2⟩

theorem mapM {f : α → Inspection β} {xs : List α} (h : ∀ x ∈ xs, StaysIn m q (f x)) :
    StaysIn m (fun ys => ∀ y ∈ ys, q y) (xs.mapM f) := by
  induction xs with
  | nil => exact pure fun _ hy => absurd hy List.not_mem_nil
  | cons x xs ih =>
    obtain ⟨first, others⟩ := List.forall_mem_cons.mp h
    rw [List.mapM_cons]
    exact first.bind fun y hy => (ih others).bind fun ys hys =>
      pure (List.forall_mem_cons.mpr ⟨hy, hys⟩)

end StaysIn

end Inspection

open Inspection

/-- The texts of an element hold no braces, and no list stands for the name of its type. -/
structure Element.BraceFree (m : Model) (e : Element) : Prop where
  name : Text.BraceFree (m.display e.name)
  documentation : Text.BraceFree (m.display e.documentation)
  default : Text.BraceFree (m.display (e.default?.getD (.str "")))
  typeName : Text.BraceFree (m.display (TypeStyle.default.baseName m e))
  unlisted : ∀ id, TypeStyle.default.baseName m e ≠ .kept id

/-- So do the texts of an operation and of its parameters. -/
def Model.FunctionBraceFree (m : Model) (e : Element) : Prop :=
  e.BraceFree m ∧ ∀ parameters, Member.parametersOf m e = .ok parameters →
    ∀ p ∈ parameters, p.BraceFree m

/-- So do the author and the statement for stubs. -/
structure GosuSettings.BraceFree (g : GosuSettings) : Prop where
  author : Text.BraceFree g.general.author.display
  stub : Text.BraceFree g.stub.display

variable {m : Model} {g : GosuSettings} {e : Element}

/-! ## Comments -/

/-- Lines alone that end plainly. -/
theorem nests_lines {α : Type} {text : α → String} {xs : List α}
    (h : ∀ x ∈ xs, EndsPlainly (text x)) : Nests (xs.map fun x => .line (text x)) := by
  induction xs with
  | nil => exact .nil
  | cons x xs ih =>
    obtain ⟨first, others⟩ := List.forall_mem_cons.mp h
    exact first.nests.append (ih others)

theorem braceFree_documentation (he : e.BraceFree m) :
    ∀ s, e.documentation = .str s → Text.BraceFree s := by
  intro s hs
  have free := he.documentation
  rw [hs] at free
  exact free

namespace Documentation

theorem block_nests {text : Value} (h : ∀ s, text = .str s → Text.BraceFree s) :
    Nests (block g text) := by
  rcases block_cases g text with none | ⟨s, hs, -, -, lines⟩
  · rw [none]
    exact .nil
  · have first : EndsPlainly "/**" := by decide
    have start : EndsPlainly " * " := by decide
    have last : EndsPlainly " */" := by decide
    have inner : ∀ line ∈ Text.splitLines (Text.trim s), EndsPlainly (" * " ++ line) :=
      fun line hl => start.append ((h s hs).trim.of_mem_splitLines hl).endsPlainly
    have plain : ∀ line ∈ blockLines s, EndsPlainly (id line) := by
      intro line hl
      simp only [blockLines, List.cons_append, List.mem_cons, List.mem_append, List.mem_map,
        List.not_mem_nil, or_false] at hl
      rcases hl with rfl | ⟨own, hown, rfl⟩ | rfl
      · exact first
      · exact inner own hown
      · exact last
    rw [lines]
    exact nests_lines plain

theorem braceFree_of_trimmed (he : e.BraceFree m) {doc : String} (h : trimmed e = .ok doc) :
    Text.BraceFree doc := by
  obtain ⟨s, hs, rfl⟩ := exists_of_trimmed h
  exact (braceFree_documentation he s hs).trim

theorem braceFree_of_withAuthor (hg : g.BraceFree) (he : e.BraceFree m) {doc : String}
    (h : withAuthor g e = .ok doc) : Text.BraceFree doc := by
  obtain ⟨own, hown, h⟩ := Outcome.bind_eq_ok.mp h
  have free := braceFree_of_trimmed he hown
  split at h
  · exact Except.ok.inj h ▸ free
  · split at h
    · rename_i author ha
      have hauthor := hg.author
      rw [ha] at hauthor
      have tag : Text.BraceFree "\n@author " := by decide
      exact Except.ok.inj h ▸ (free.append tag).append hauthor
    · cases h

theorem braceFree_of_ofMethod (he : e.BraceFree m) {params : List Element} {result : Option Element}
    (hp : ∀ p ∈ params, p.BraceFree m) (hr : ∀ p ∈ result, p.BraceFree m) {doc : String}
    (h : ofMethod m e params result = .ok doc) : Text.BraceFree doc := by
  obtain ⟨own, hown, h⟩ := Outcome.bind_eq_ok.mp h
  have free := braceFree_of_trimmed he hown
  rw [← Except.ok.inj h]
  refine .concat fun line hline => ?_
  rcases List.mem_append.mp hline with hline | hline
  · rcases List.mem_append.mp hline with hline | hline
    · obtain ⟨kept, hkept, rfl⟩ := List.mem_map.mp hline
      have feed : Text.BraceFree "\n" := by decide
      exact feed.append (free.of_mem_splitLines (List.mem_of_mem_filter hkept))
    · obtain ⟨p, hparam, rfl⟩ := List.mem_map.mp hline
      have tag : Text.BraceFree "\n@param " := by decide
      have blank : Text.BraceFree " " := by decide
      exact ((tag.append (hp p hparam).name).append blank).append (hp p hparam).documentation
  · rw [Option.mem_toList, Option.map_eq_some_iff] at hline
    obtain ⟨p, hresult, rfl⟩ := hline
    have tag : Text.BraceFree "\n@return " := by decide
    exact tag.append (hr p hresult).documentation

end Documentation

/-! ## Types -/

namespace TypeStyle

/-- A type that a text is put after is a text. -/
theorem sum_eq_ok {type v : Value} {suffix : String} (h : sum type (.str suffix) = .ok v) :
    ∃ s, type = .str s ∧ v = .str (s ++ suffix) := by
  cases type with
  | str s => exact ⟨s, rfl, (Except.ok.inj h).symm⟩
  | _ => cases h

theorem expression_braceFree (he : e.BraceFree m) :
    StaysIn m (fun type => Text.BraceFree (m.display type)) (default.expression e) := by
  refine .look (.after fun amount _ => ?_)
  cases amount with
  | single => exact .pure he.typeName
  | collection =>
    have opening : Text.BraceFree "<" := by decide
    have closing : Text.BraceFree ">" := by decide
    have kind (isOrdered : Bool) :
        Text.BraceFree (default.collectionName isOrdered).display := by
      cases isOrdered <;> decide
    exact .pure ((((kind _).append opening).append he.typeName).append closing)
  | array =>
    have suffix : Text.BraceFree "[]" := by decide
    refine .look ?_
    split
    · exact absurd ‹_› (he.unlisted _)
    · refine .lift fun type h => ?_
      obtain ⟨s, hs, rfl⟩ := sum_eq_ok h
      have free := he.typeName
      rw [hs] at free
      exact Text.BraceFree.append free suffix

/-- What a stub returns is one of a few literals. -/
theorem braceFree_of_returnValue? {type v : Value} (h : default.returnValue? m type = .ok (some v)) :
    Text.BraceFree v.display := by
  have fallback : Text.BraceFree default.fallbackReturn.display := by decide
  have listed : ∀ returns, default.returns = .obj returns →
      ∀ entry ∈ returns, Text.BraceFree entry.2.display := by
    rintro _ ⟨⟩
    decide
  unfold returnValue? at h
  split at h
  · cases h
  · split at h
    · rename_i returns s hreturns _
      cases h
      rw [Entries.getD]
      cases hv : Entries.get? returns s with
      | none => exact fallback
      | some v => exact listed returns hreturns (s, v) (Association.mem_of_lookup hv)
    · split at h
      · cases h
        exact fallback
      · cases h
    · cases h

end TypeStyle

/-! ## Lines of words -/

/-- The last of some words, if there is one, ends plainly. -/
def EndsLine (m : Model) (words : List Value) : Prop :=
  ∀ last, words.getLast? = some last → EndsPlainly (m.display last)

namespace EndsLine

variable {front words : List Value}

theorem singleton {v : Value} (h : EndsPlainly (m.display v)) : EndsLine m [v] := by
  rintro _ ⟨⟩
  exact h

theorem append (hf : EndsLine m front) (hw : EndsLine m words) : EndsLine m (front ++ words) := by
  intro last h
  rw [List.getLast?_append] at h
  cases hlast : words.getLast? with
  | none =>
    rw [hlast] at h
    exact hf last h
  | some other =>
    rw [hlast] at h
    cases h
    exact hw last hlast

theorem append_right (h : EndsLine m words) (some : words ≠ []) (front : List Value) :
    EndsLine m (front ++ words) := by
  intro last e
  rw [List.getLast?_append, List.getLast?_eq_some_getLast some] at e
  exact h last ((List.getLast?_eq_some_getLast some).trans e)

/-- The line ends as the last word does. -/
theorem phrase (h : EndsLine m words) {line : String} (hl : phrase words = .ok line) :
    EndsPlainly line := by
  obtain ⟨texts, rfl, rfl⟩ := Model.joinNames_eq_ok hl
  rcases texts.eq_nil_or_concat with rfl | ⟨texts, text, rfl⟩
  · decide
  · have plain : EndsPlainly text := h (.str text) (by simp)
    rw [List.concat_eq_append]
    exact plain.join texts

end EndsLine

/-! ## Members -/

namespace Member

theorem constructor_nests (g : GosuSettings) (e : Element) : Nests (constructor g e) := by
  unfold constructor
  split
  · exact .nil
  · have doc : Nests (Documentation.block g (.str "Default constructor")) :=
      Documentation.block_nests fun s h => by
        cases h
        decide
    have opens : OpensBrace "construct() \x7b" := by decide
    exact doc.append (.emptyBody (opens.append _))

theorem endsLine_aliasWords (he : e.BraceFree m) : EndsLine m (aliasWords e) := by
  have free := he.name
  unfold aliasWords
  split
  · rename_i s hs
    rw [hs] at free
    split
    · rename_i name halias
      have same : name = s := by
        unfold Naming.propertyAlias? at halias
        split at halias
        · exact (Option.some.inj halias).symm
        · cases halias
      rw [same]
      exact (EndsLine.singleton free.endsPlainly).append_right (List.cons_ne_nil _ _) _
    · nofun
  · nofun

theorem endsLine_of_defaultWords (he : e.BraceFree m) {words : List Value}
    (h : defaultWords e = .ok words) : EndsLine m words := by
  have free := he.default
  unfold defaultWords at h
  dsimp only at h
  split at h
  · cases h
    nofun
  · split at h
    · rename_i s hs
      rw [hs] at free
      cases h
      have equals : Text.BraceFree "= " := by decide
      exact .singleton (Text.BraceFree.append equals free).endsPlainly
    · cases h

theorem variableFor_nests (he : e.BraceFree m) : StaysIn m Nests (variableFor g e) := by
  unfold variableFor
  split
  · exact .pure .nil
  · refine .after fun field _ => (TypeStyle.expression_braceFree he).bind fun type ht =>
      .after fun default hdefault => .after fun line hline => .pure ?_
    have typed : EndsLine m ([.str "var", .str field, .str ":"] ++ [type]) :=
      (EndsLine.singleton ht.endsPlainly).append_right (List.cons_ne_nil _ _) _
    have declared := typed.append_right (List.cons_ne_nil _ _) (keywords (Modifier.ofElement e))
    have plain := ((declared.append (endsLine_aliasWords he)).append
      (endsLine_of_defaultWords he hdefault)).phrase hline
    exact (Documentation.block_nests (braceFree_documentation he)).append plain.nests

theorem returnLines_nests {type : Option Value} {lines : Script}
    (h : returnLines m type = .ok lines) : Nests lines := by
  cases type with
  | none =>
    cases h
    exact .nil
  | some type =>
    obtain ⟨value, hvalue, h⟩ := Outcome.bind_eq_ok.mp h
    cases value with
    | none =>
      cases h
      exact .nil
    | some v =>
      cases h
      have word : Text.BraceFree "return " := by decide
      exact (word.append (TypeStyle.braceFree_of_returnValue? hvalue)).endsPlainly.nests

theorem stubLine_nests (hg : g.BraceFree) {stub : Move} (h : stubLine g.stub = .ok stub) :
    Nests [stub] := by
  have free := hg.stub
  unfold stubLine at h
  split at h
  · cases h
    exact .empty
  · split at h
    · rename_i s hs
      rw [hs] at free
      cases h
      exact free.endsPlainly.nests
    · cases h

theorem resultType_braceFree {parameters : List Element} (h : ∀ p ∈ parameters, p.BraceFree m) :
    StaysIn m (fun type => ∀ t, type = some t → Text.BraceFree (m.display t))
      ((result? parameters).mapM TypeStyle.default.expression) := by
  cases hr : result? parameters with
  | none => exact .pure nofun
  | some p =>
    refine (TypeStyle.expression_braceFree (h p (List.mem_of_find?_eq_some hr))).bind fun type ht =>
      .pure ?_
    rintro _ ⟨⟩
    exact ht

/-- A function without a body ends with its result, or with its signature. -/
theorem endsLine_function {signature : String} (plain : EndsPlainly signature) {result : List Value}
    (hr : EndsLine m result) (modifiers : List Value) :
    EndsLine m (modifiers ++ [.str "function", .str signature] ++ result) := by
  have last : EndsLine m [.str signature] := .singleton plain
  have named := last.append_right (List.cons_ne_nil _ _) [.str "function"]
  exact (named.append_right (List.cons_ne_nil _ _) modifiers).append hr

theorem documentation_nests (he : m.FunctionBraceFree e) {parameters : List Element}
    (hps : parametersOf m e = .ok parameters) {doc : String}
    (h : Documentation.ofMethod m e (inputs parameters) (result? parameters) = .ok doc) :
    Nests (Documentation.block g (.str doc)) := by
  obtain ⟨own, hparameters⟩ := he
  have free := hparameters parameters hps
  have hdoc := Documentation.braceFree_of_ofMethod own
    (fun p hp => free p (List.mem_of_mem_filter hp))
    (fun p hp => free p (List.mem_of_find?_eq_some hp)) h
  refine Documentation.block_nests fun s e => ?_
  cases e
  exact hdoc

/-- Parameters are put between parentheses, so their texts do not matter. -/
theorem parameterTexts_stay {parameters : List Element} (h : ∀ p ∈ parameters, p.BraceFree m)
    (withoutParameters : Bool) :
    StaysIn m (fun _ => True)
      ((if withoutParameters then [] else inputs parameters).mapM parameterText) := by
  refine (StaysIn.mapM (q := fun _ => True) fun p hp => ?_).imp fun _ _ => trivial
  have written : p ∈ parameters := by
    split at hp
    · cases hp
    · exact List.mem_of_mem_filter hp
  exact .look ((TypeStyle.expression_braceFree (h p written)).bind fun _ _ =>
    .look (.pure trivial))

theorem method_nests (hg : g.BraceFree) (he : m.FunctionBraceFree e)
    (withoutBody withoutParameters : Bool) :
    StaysIn m Nests (method g e withoutBody withoutParameters) := by
  unfold method
  split
  · exact .pure .nil
  · refine .look (.after fun parameters hps => .after fun doc hdoc => ?_)
    have head := documentation_nests (g := g) he hps hdoc
    have free := he.2 parameters hps
    refine (parameterTexts_stay free withoutParameters).bind fun texts _ => .look ?_
    refine (resultType_braceFree free).bind fun type ht => .after fun line hline => ?_
    split
    · have closing : EndsPlainly ")" := by decide
      have signature := closing.append_right (by decide)
        (m.display e.name ++ "(" ++ Text.join ", " texts)
      refine .pure (head.append (EndsLine.phrase (m := m) (endsLine_function signature ?_ _) hline).nests)
      cases type with
      | none => nofun
      | some type =>
        have last : EndsLine m [type] := .singleton (ht type rfl).endsPlainly
        exact last.append_right (List.cons_ne_nil _ _) [.str ":"]
    · refine .after fun stub hstub => .after fun returned hreturned => .pure ?_
      have body : Nests ([.line (line ++ " \x7b"), .indent] ++ ([stub] ++ returned)
          ++ [.outdent, .line "\x7d"]) :=
        ((stubLine_nests hg hstub).append (returnLines_nests hreturned)).body
          (Text.OpensBrace.append (by decide) line)
      simpa using head.append body

end Member

end GosuForge
