import GosuForge.Proofs.Containment
import GosuForge.Proofs.Entries
import GosuForge.Proofs.Lines

/-!
# Multiplicities in type expressions

The multiplicity of a member decides whether its type is written as it is, as a collection or as an
array. Blanks around a multiplicity do not matter, unless what they surround is the size of an
array.

* `Element.typeName`, `TypeStyle.wrapped`: the name of a type, and the type expression for a
  multiplicity;
* `Text.trim_of_isSize`: there are no blanks in the size of an array;
* `TypeStyle.runIn_expression_of_text`: the type expression of a member;
* `Member.returnLines_eq_null_iff`: the types for which a stub returns null;
* `TypeStyle.expression_trimmed_iff`: blanks that matter, in types and in what stubs return;
* `TypeStyle.padded_size_ignored`: an array that is lost.
-/

namespace GosuForge

/-! ## Multiplicities -/

namespace Text

/-- A multiplicity that makes an array: ASCII digits, but not the number one. -/
def IsSize (s : String) : Prop := s ≠ "" ∧ s ≠ "1" ∧ ∀ c ∈ s.toList, c.isDigit = true

instance (s : String) : Decidable (IsSize s) :=
  have : Decidable (∀ c ∈ s.toList, c.isDigit = true) := List.decidableBAll _ s.toList
  inferInstanceAs (Decidable (_ ∧ _ ∧ _))

/-- The size of an array with blanks around it. -/
def IsPaddedSize (s : String) : Prop := IsSize (trim s) ∧ trim s ≠ s

instance (s : String) : Decidable (IsPaddedSize s) := inferInstanceAs (Decidable (_ ∧ _))

theorem trim_of_blankFree {s : String} (h : BlankFree s) : trim s = s := by
  have kept {cs : List Char} (plain : ∀ c ∈ cs, isBlank c = false) : dropBlanks cs = cs := by
    cases cs with
    | nil => rfl
    | cons c cs =>
      rw [dropBlanks, List.dropWhile_cons, plain c List.mem_cons_self, if_neg Bool.false_ne_true]
  have mirrored : ∀ c ∈ s.toList.reverse, isBlank c = false :=
    fun c hc => h c (List.mem_reverse.mp hc)
  rw [trim, trimChars, kept h, kept mirrored, List.reverse_reverse, String.ofList_toList]

theorem isBlank_of_isDigit {c : Char} (h : c.isDigit = true) : isBlank c = false := by
  have digit : 48 ≤ c.toNat ∧ c.toNat ≤ 57 := Char.isDigit_iff_toNat.mp h
  have outside : ∀ run ∈ blankRanges, run.2 < 48 ∨ 57 < run.1 := by decide
  refine Bool.eq_false_iff.mpr fun blank => ?_
  obtain ⟨run, hrun, within⟩ := List.any_eq_true.mp blank
  have bounds : run.1 ≤ c.toNat ∧ c.toNat ≤ run.2 := by simpa using within
  have := outside run hrun
  omega

/-- There are no blanks in the size of an array. -/
theorem trim_of_isSize {s : String} (h : IsSize s) : trim s = s :=
  trim_of_blankFree fun c hc => isBlank_of_isDigit (h.2.2 c hc)

end Text

/-! ## Types -/

/-- The name of the type of a member: that of the element referred to, or the text in its place, if
it is not empty. An end of an association only refers to elements. -/
def Element.typeName (m : Model) (e : Element) : String :=
  let name :=
    match e.type? with
    | some (.element id) => (m.get id).nameText
    | some (.data (.str s)) => if e.isEnd then "" else s
    | _ => ""
  if name = "" then "void" else name

namespace TypeStyle

/-- The type expression for a type and a multiplicity. -/
def wrapped (isOrdered : Bool) (type multiplicity : String) : String :=
  if multiplicity ∈ ["0..*", "1..*", "*"] then
    (if isOrdered then "List" else "Set") ++ "<" ++ type ++ ">"
  else if Text.IsSize multiplicity then type ++ "[]"
  else type

variable {m : Model} {e : Element} {multiplicity : String}

theorem not_isSize_of_unbounded (h : multiplicity ∈ ["0..*", "1..*", "*"]) :
    ¬ Text.IsSize multiplicity := by
  have sizeless : ∀ t ∈ ["0..*", "1..*", "*"], ¬ Text.IsSize t := by decide
  exact sizeless _ h

theorem wrapped_of_isSize {isOrdered : Bool} {type : String} (h : Text.IsSize multiplicity) :
    wrapped isOrdered type multiplicity = type ++ "[]" := by
  rw [wrapped, if_neg fun unbounded => not_isSize_of_unbounded unbounded h, if_pos h]

theorem orElse_void (s : String) :
    (Value.str s).orElse default.voidType = .str (if s = "" then "void" else s) := by
  by_cases h : s = "" <;> simp [Value.orElse, Value.truthy, default, h]

theorem baseName_eq
    (named : ∀ id, e.type? = some (.element id) → ∃ name, (m.get id).name = .str name) :
    default.baseName m e = .str (e.typeName m) := by
  unfold baseName Element.typeName
  rcases type : e.type? with _ | v | id
  · rfl
  · cases v with
    | str s =>
      cases e.isEnd with
      | true => rfl
      | false => exact orElse_void s
    | _ => rfl
  · obtain ⟨name, hname⟩ := named id type
    simp only [hname, orElse_void, Element.nameText_eq hname]

theorem isSize_iff :
    Text.IsSize multiplicity ↔ (multiplicity != "1" && isCount multiplicity) = true := by
  simp [Text.IsSize, isCount]
  tauto

/-- Blanks are left out of account for collections only. -/
theorem amountOf_eq (given : e.multiplicity? = some (.str multiplicity)) :
    amountOf e = .ok (if Text.trim multiplicity ∈ ["0..*", "1..*", "*"] then .collection
      else if Text.IsSize multiplicity then .array else .single) := by
  rw [amountOf, given, Option.getD_some]
  by_cases empty : multiplicity = ""
  · subst empty
    rfl
  · have counts : (!(Value.str multiplicity).truthy) = false := by simp [Value.truthy, empty]
    simp only [counts, isSize_iff, unbounded, List.contains_iff_mem]
    rfl

/-- A type expression is as its multiplicity without blanks says, but there is no array where blanks
stand around the size. -/
theorem runIn_expression_of_text (given : e.multiplicity? = some (.str multiplicity))
    (named : ∀ id, e.type? = some (.element id) → ∃ name, (m.get id).name = .str name) :
    (default.expression e).runIn m =
      (.ok (.str (if Text.IsPaddedSize multiplicity then e.typeName m
        else wrapped (e.isOrdered?.getD (.bool false)).truthy (e.typeName m)
          (Text.trim multiplicity))), m) := by
  unfold expression
  rw [Inspection.runIn_bind_of_ok _ (Inspection.runIn_get m), amountOf_eq given, baseName_eq named]
  by_cases unbounded : Text.trim multiplicity ∈ ["0..*", "1..*", "*"]
  · rw [if_pos unbounded, if_neg fun h => not_isSize_of_unbounded unbounded h.1, wrapped,
      if_pos unbounded]
    cases (e.isOrdered?.getD (.bool false)).truthy <;> rfl
  · rw [if_neg unbounded]
    -- The size is tested with its blanks, so that only a text that is trimmed already has one.
    by_cases size : Text.IsSize multiplicity
    · have trimmed := Text.trim_of_isSize size
      rw [if_pos size, if_neg fun h => h.2 trimmed, trimmed, wrapped, if_neg (trimmed ▸ unbounded),
        if_pos size]
      rfl
    · rw [if_neg size]
      by_cases padded : Text.IsPaddedSize multiplicity
      · rw [if_pos padded]
        rfl
      · have sizeless : ¬ Text.IsSize (Text.trim multiplicity) := fun h =>
          padded ⟨h, fun trimmed => size (trimmed ▸ h)⟩
        rw [if_neg padded, wrapped, if_neg unbounded, if_neg sizeless]
        rfl

end TypeStyle

/-! ## What stubs return -/

namespace Member

/-- The types with a return of their own, or without one. A stub returns null for all others. -/
def ownReturns : List String :=
  ["void", "boolean", "int", "long", "short", "byte", "float", "double", "char", "String"]

variable {m : Model} {type : String}

theorem returnLines_eq_null_iff :
    returnLines m (some (.str type)) = .ok [.line "return null"] ↔ type ∉ ownReturns := by
  obtain ⟨returns, hreturns⟩ : ∃ returns, TypeStyle.default.returns = .obj returns := ⟨_, rfl⟩
  have literals : ∀ own ∈ ownReturns, own ≠ "void" →
      "return " ++ (Entries.getD returns own TypeStyle.default.fallbackReturn).display ≠
        "return null" := by
    obtain rfl := Value.obj.inj hreturns
    decide
  have keys : ∀ key ∈ returns.map Prod.fst, key ∈ ownReturns := by
    obtain rfl := Value.obj.inj hreturns
    decide
  by_cases void : type = "void"
  · subst void
    exact iff_of_false nofun fun h => h List.mem_cons_self
  · have valued : TypeStyle.default.isVoid m (.str type) = false := beq_false_of_ne void
    have returned : returnLines m (some (.str type)) =
        .ok [.line ("return " ++
          (Entries.getD returns type TypeStyle.default.fallbackReturn).display)] := by
      simp only [returnLines, TypeStyle.returnValue?, valued, hreturns]
      rfl
    rw [returned]
    refine ⟨fun h own => literals type own void (Move.line.inj (List.cons.inj (Except.ok.inj h)).1),
      fun other => ?_⟩
    rw [Entries.getD, Entries.get?_eq_none fun known => other (keys type known)]
    rfl

/-- There is no literal for an array. -/
theorem returnLines_array (type : String) :
    returnLines m (some (.str (type ++ "[]"))) = .ok [.line "return null"] := by
  have bracketless : ∀ own ∈ ownReturns, own.toList.getLast? ≠ some ']' := by decide
  refine returnLines_eq_null_iff.mpr fun h => bracketless _ h ?_
  rw [String.toList_append]
  exact List.getLast?_append_of_ne_nil _ (by decide)

end Member

namespace TypeStyle

variable {m : Model} {e : Element} {multiplicity : String}

/-- Blanks around a multiplicity change a type if and only if they stand around the size of an
array, which is then not written. What a stub returns changes as well if there is a literal for the
type of the items, or none at all. -/
theorem expression_trimmed_iff (given : e.multiplicity? = some (.str multiplicity))
    (named : ∀ id, e.type? = some (.element id) → ∃ name, (m.get id).name = .str name) :
    let trimmed := wrapped (e.isOrdered?.getD (.bool false)).truthy (e.typeName m)
      (Text.trim multiplicity)
    ∃ type, (default.expression e).runIn m = (.ok (.str type), m) ∧
      (type = trimmed ↔ ¬ Text.IsPaddedSize multiplicity) ∧
      (Text.IsPaddedSize multiplicity → type = e.typeName m) ∧
      (Member.returnLines m (some (.str type)) = Member.returnLines m (some (.str trimmed)) ↔
        ¬ (Text.IsPaddedSize multiplicity ∧ e.typeName m ∈ Member.ownReturns)) := by
  intro trimmed
  refine ⟨_, runIn_expression_of_text given named, ?_⟩
  by_cases padded : Text.IsPaddedSize multiplicity
  · have array : trimmed = e.typeName m ++ "[]" := wrapped_of_isSize padded.1
    have other : e.typeName m ≠ e.typeName m ++ "[]" := fun h => by
      simpa using congrArg String.length h
    rw [if_pos padded, array, Member.returnLines_array, Member.returnLines_eq_null_iff]
    simp [padded, other]
  · simp [padded, trimmed]

/-- A list of items at an end of an association, for which blanks do not matter. -/
theorem expression_trimmed_items :
    let item : Element := { Element.new (.classifier (.new .classSort)) with name := .str "Item" }
    let items : Element := .new
      (.associationEnd ⟨.element 0, .str " * ", .bool true, .str ""⟩ (.bool true))
    let m : Model := ⟨#[item, items]⟩
    items.multiplicity? = some (.str " * ") ∧
      (∀ id, items.type? = some (.element id) → ∃ name, (m.get id).name = .str name) ∧
      ∃ type, (default.expression items).runIn m = (.ok (.str type), m) ∧ type = "List<Item>" ∧
        Member.returnLines m (some (.str type)) = .ok [.line "return null"] := by
  intro item items m
  have given : items.multiplicity? = some (.str " * ") := rfl
  have named : ∀ id, items.type? = some (.element id) → ∃ name, (m.get id).name = .str name := by
    rintro _ ⟨⟩
    exact ⟨"Item", rfl⟩
  obtain ⟨type, htype, same, -, returned⟩ := expression_trimmed_iff given named
  have unpadded : ¬ Text.IsPaddedSize " * " := by decide
  exact ⟨given, named, type, htype, same.mpr unpadded, returned.mpr fun h => unpadded h.1⟩

/-- With blanks around its size, an array of numbers is written as one number, which a stub returns.
-/
theorem padded_size_ignored :
    let counts (multiplicity : String) : Element := .new
      (.attribute ⟨.data (.str "int"), .str multiplicity, .bool false, .str ""⟩)
    let m : Model := ⟨#[counts " 3 ", counts "3"]⟩
    Text.trim " 3 " = "3" ∧
      (default.expression (m.get 0)).runIn m = (.ok (.str "int"), m) ∧
      (default.expression (m.get 1)).runIn m = (.ok (.str "int[]"), m) ∧
      Member.returnLines m (some (.str "int")) = .ok [.line "return 0"] ∧
      Member.returnLines m (some (.str "int[]")) = .ok [.line "return null"] :=
  ⟨rfl, rfl, rfl, rfl, rfl⟩

end TypeStyle

end GosuForge
