import GosuForge.Proofs.Declaration
import Mathlib.Data.List.Forall2

/-!
# Literals of an enumeration

An enumeration writes a line for each of its literals. A literal without a name is not left out: it
takes a line of its own, and the literal before it takes a comma.

* `Text.listed`: texts one below the other with commas between them;
* `Declaration.literalLines_eq`: the lines of literals;
* `Declaration.literals_named_iff`: when they are those of the literals that have a name;
* `Declaration.unnamed_literal_written`: a line that is too many.
-/

namespace GosuForge

namespace Text

/-- Texts one below the other, each with a comma behind it but the last. -/
def listed (texts : List String) : List String :=
  texts.dropLast.map (· ++ ",") ++ texts.getLast?.toList

theorem listed_cons (s : String) (rest : List String) :
    listed (s :: rest) = (if rest.isEmpty then s else s ++ ",") :: listed rest := by
  cases rest with
  | nil => rfl
  | cons t rest => simp [listed]

theorem length_listed (texts : List String) : (listed texts).length = texts.length := by
  induction texts with
  | nil => rfl
  | cons s rest ih => rw [listed_cons, List.length_cons, List.length_cons, ih]

/-- The list gets shorter with each text that is left out. -/
theorem listed_filter_iff {texts : List String} {p : String → Bool} :
    listed texts = listed (texts.filter p) ↔ ∀ s ∈ texts, p s = true := by
  constructor
  · intro h
    have lengths := congrArg List.length h
    rw [length_listed, length_listed] at lengths
    exact List.length_filter_eq_length_iff.mp lengths.symm
  · intro all
    rw [List.filter_eq_self.mpr all]

end Text

/-- An element is there and is named by a text. -/
def Model.IsCalled (m : Model) (id : ElementId) (name : String) : Prop :=
  m.read id = .ok (m.get id) ∧ (m.get id).name = .str name

namespace Declaration

variable {m : Model}

/-- Literals that are named by texts are written one below the other. -/
theorem literalLines_eq {literals : List ElementId} {names : List String}
    (called : List.Forall₂ m.IsCalled literals names) :
    literalLines m literals = .ok ((Text.listed names).map .line) := by
  induction called with
  | nil => rfl
  | @cons id name literals names first rest ih =>
    have same : literals.isEmpty = names.isEmpty := by
      cases rest <;> rfl
    rw [literalLines, first.1, Text.listed_cons, ← same]
    simp only [bind, Except.bind, first.2, ih, List.map_cons]

/-- **An enumeration lists all of its literals**, in order, each with a comma behind it but the last,
and no other line: the lines are those of the literals with a name if and only if all of them have
one. -/
theorem literals_named_iff {id : ElementId} {literals : List ElementId} {names : List String}
    (r : Repository) (g : GosuSettings) (given : Members.orNone (m.get id).literals? = .ok literals)
    (called : List.Forall₂ m.IsCalled literals names) :
    ∃ lines : List String,
      (script r g .enumeration id).runIn m =
        (.ok (Documentation.block g (m.get id).documentation
          ++ [.line ("enum " ++ m.display (m.get id).name ++ " \x7b"), .indent]
          ++ lines.map .line ++ [.outdent, .line "\x7d"]), m) ∧
      lines = Text.listed names ∧
      (lines = Text.listed (names.filter (· ≠ "")) ↔ ∀ name ∈ names, name ≠ "") := by
  refine ⟨Text.listed names, ?_, rfl, ?_⟩
  · have written : (script r g .enumeration id).runIn m = (enumerationScript m g id, m) :=
      Inspection.runIn_lift m _
    rw [written, enumerationScript, given]
    simp only [bind, Except.bind, literalLines_eq called]
    rfl
  · rw [Text.listed_filter_iff]
    simp

end Declaration

/-- An enumeration with the given literals, which are numbered from 1 on. -/
def enumerationOf (names : List String) : Model :=
  ⟨(Element.newNamed "Color" none (.classifier
      { Classifier.new .enumeration with literals := List.range' 1 names.length })
    :: names.map fun name => .newNamed name (some 0) .literal).toArray⟩

namespace Declaration

/-- Three literals, one of which has no name. -/
theorem literals_named_colors :
    Members.orNone ((enumerationOf ["RED", "", "GREEN"]).get 0).literals? = .ok [1, 2, 3] ∧
    List.Forall₂ (enumerationOf ["RED", "", "GREEN"]).IsCalled [1, 2, 3] ["RED", "", "GREEN"] ∧
    ∃ lines : List String,
      (script [] .standard .enumeration 0).runIn (enumerationOf ["RED", "", "GREEN"]) =
        (.ok ([.line "enum Color \x7b", .indent] ++ lines.map .line ++ [.outdent, .line "\x7d"]),
          enumerationOf ["RED", "", "GREEN"]) ∧
      lines = ["RED,", ",", "GREEN"] ∧ lines ≠ ["RED,", "GREEN"] := by
  have given : Members.orNone ((enumerationOf ["RED", "", "GREEN"]).get 0).literals? =
      .ok [1, 2, 3] := rfl
  have called : List.Forall₂ (enumerationOf ["RED", "", "GREEN"]).IsCalled [1, 2, 3]
      ["RED", "", "GREEN"] := .cons ⟨rfl, rfl⟩ (.cons ⟨rfl, rfl⟩ (.cons ⟨rfl, rfl⟩ .nil))
  obtain ⟨lines, written, rfl, named⟩ := literals_named_iff [] .standard given called
  exact ⟨given, called, _, written, rfl, fun h => (named.mp h) "" (by simp) rfl⟩

/-- A literal without a name puts a comma behind the last one with a name, and an empty line. -/
theorem unnamed_literal_written :
    ((script [] .standard .enumeration 0).answerIn (enumerationOf ["RED", ""])) =
      .ok [.line "enum Color \x7b", .indent, .line "RED,", .line "", .outdent, .line "\x7d"] ∧
    Text.listed (["RED", ""].filter (· ≠ "")) = ["RED"] :=
  ⟨rfl, by decide⟩

end Declaration

end GosuForge
