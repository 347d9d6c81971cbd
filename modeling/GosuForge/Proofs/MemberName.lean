import GosuForge.Gosu.Naming
import Mathlib

/-!
# Names of fields and properties

A name without small letters is that of a constant and stays as it is. Any other name becomes that of
a field with an underscore in front, so that names may collide that differ in no more than this and in
the case of one letter. This holds for ASCII names, whose letters have one other case each.

* `Naming.isAllUppercase_iff`: the names of constants;
* `Naming.Becomes`, `Naming.becomes_fieldName`: how a name becomes that of a field;
* `Naming.Becomes.again`, `Naming.Becomes.collide`: a second time, and two names with one field;
* `Naming.fieldName_laws`: the laws of names.
-/

namespace GosuForge

namespace Text

/-- A text of ASCII characters. -/
def IsAscii (s : String) : Prop := ∀ c ∈ s.toList, c.toNat < 0x80

instance (s : String) : Decidable (IsAscii s) := List.decidableBAll _ s.toList

theorem upperChars_of_ascii {cs : List Char} (ascii : ∀ c ∈ cs, c.toNat < 0x80) :
    upperChars cs = cs.map Char.toUpper := by
  rw [upperChars, ← List.flatMap_singleton' (cs.map Char.toUpper), List.flatMap_map]
  exact List.flatMap_congr fun c hc => if_pos (ascii c hc)

theorem toNat_toLower_lt {c : Char} (ascii : c.toNat < 0x80) : c.toLower.toNat < 0x80 := by
  have all : ∀ n < 0x80, (Char.ofNat n).toLower.toNat < 0x80 := by decide +kernel
  have own := all c.toNat ascii
  rwa [Char.ofNat_toNat] at own

end Text

namespace Naming

open Text (IsAscii)

/-- Some letter is small. -/
def HasSmall (cs : List Char) : Prop := ∃ c ∈ cs, c.isLower = true

theorem toUpper_eq_iff {c : Char} : c.toUpper = c ↔ ¬ c.isLower = true := by
  refine ⟨fun h small => ?_, Char.toUpper_eq_of_not_isLower⟩
  rw [← h, Char.isLower_toUpper_eq_false] at small
  cases small

/-- Capitals leave just the names without small letters as they are. -/
theorem isAllUppercase_iff {name : String} (ascii : IsAscii name) :
    isAllUppercase name = true ↔ ¬ HasSmall name.toList := by
  have capitals : name = Text.upper name ↔ name.toList.map Char.toUpper = name.toList := by
    rw [← String.toList_inj, Text.upper, String.toList_ofList, Text.upperChars_of_ascii ascii]
    exact eq_comm
  have each : name.toList.map Char.toUpper = name.toList ↔
      ∀ c ∈ name.toList, c.toUpper = c := by
    simpa using List.map_inj_left (f := Char.toUpper) (g := id) (l := name.toList)
  rw [isAllUppercase, beq_iff_eq, capitals, each]
  simp [HasSmall, toUpper_eq_iff]

/-! ## From names to fields -/

/-- How a name becomes that of a field. -/
inductive Becomes : List Char → List Char → Prop
  | constant {cs : List Char} : ¬ HasSmall cs → Becomes cs cs
  | underscored {cs : List Char} : HasSmall ('_' :: cs) → Becomes ('_' :: cs) ('_' :: cs)
  | renamed {c : Char} {cs : List Char} : HasSmall (c :: cs) → c ≠ '_' →
      Becomes (c :: cs) ('_' :: c.toLower :: cs)

theorem startsWith_underscore {name : String} {c : Char} {cs : List Char}
    (h : name.toList = c :: cs) : Text.startsWith "_" name = true ↔ c = '_' := by
  have first : Text.startsWith "_" name = ('_' == c && true) := congrArg ("_".toList.isPrefixOf ·) h
  rw [first, Bool.and_true, beq_iff_eq]
  exact eq_comm

theorem lowerFirst_of_ascii {name : String} {c : Char} {cs : List Char}
    (h : name.toList = c :: cs) (ascii : c.toNat < 0x80) :
    (lowerFirst name).toList = c.toLower :: cs := by
  have lowered : Text.lowerChar c = [c.toLower] := if_pos ascii
  rw [lowerFirst, h]
  dsimp only
  rw [String.toList_ofList, lowered]
  rfl

theorem becomes_fieldName {name : String} (ascii : IsAscii name) :
    Becomes name.toList (fieldName name).toList := by
  by_cases small : HasSmall name.toList
  · have changed : isAllUppercase name = false :=
      Bool.eq_false_iff.mpr fun upper => (isAllUppercase_iff ascii).mp upper small
    cases h : name.toList with
    | nil =>
      rw [h] at small
      obtain ⟨c, hc, -⟩ := small
      cases hc
    | cons c cs =>
      have first := lowerFirst_of_ascii h (ascii c (h ▸ List.mem_cons_self))
      rw [h] at small
      rw [fieldName, changed, if_neg Bool.false_ne_true, String.toList_append, first]
      by_cases underscore : c = '_'
      · rw [if_pos ((startsWith_underscore h).mpr underscore)]
        subst underscore
        exact .underscored small
      · rw [if_neg fun starts => underscore ((startsWith_underscore h).mp starts)]
        exact .renamed small underscore
  · have upper := (isAllUppercase_iff ascii).mpr small
    rw [fieldName, upper, if_pos rfl]
    exact .constant small

variable {cs ds es : List Char}

theorem Becomes.ascii (h : Becomes cs ds) (ascii : ∀ c ∈ cs, c.toNat < 0x80) :
    ∀ c ∈ ds, c.toNat < 0x80 := by
  cases h with
  | constant _ => exact ascii
  | underscored _ => exact ascii
  | renamed _ _ =>
    obtain ⟨first, rest⟩ := List.forall_mem_cons.mp ascii
    refine List.forall_mem_cons.mpr ⟨by decide, List.forall_mem_cons.mpr ⟨?_, rest⟩⟩
    exact Text.toNat_toLower_lt first

/-- A field keeps the small letters of its name. -/
theorem Becomes.hasSmall (h : Becomes cs ds) (small : HasSmall cs) : HasSmall ds := by
  cases h with
  | constant none => exact absurd small none
  | underscored _ => exact small
  | renamed _ _ =>
    obtain ⟨d, hd, low⟩ := small
    rcases List.mem_cons.mp hd with rfl | hd
    · have kept : d.toLower = d := Char.toLower_eq_of_not_isUpper (Char.not_isUpper_of_isLower low)
      exact ⟨d, by simp [kept], low⟩
    · exact ⟨d, by simp [hd], low⟩

/-- The name of a field becomes no other. -/
theorem Becomes.again (h : Becomes cs ds) (h' : Becomes ds es) : es = ds := by
  cases h' with
  | constant _ => rfl
  | underscored _ => rfl
  | renamed small other =>
    cases h with
    | constant none => exact absurd small none
    | underscored _ => exact absurd rfl other
    | renamed _ _ => exact absurd rfl other

/-! ## Names with one field -/

/-- The letters without one underscore in front of them. -/
def withoutUnderscore : List Char → List Char
  | '_' :: cs => cs
  | cs => cs

/-- The same letters, the first of them in either case. -/
def AlikeButFirst : List Char → List Char → Prop
  | [], [] => True
  | c :: cs, d :: ds => c.toLower = d.toLower ∧ cs = ds
  | _, _ => False

theorem withoutUnderscore_of_ne {c : Char} (other : c ≠ '_') :
    withoutUnderscore (c :: cs) = c :: cs := by
  rw [withoutUnderscore]
  rintro _ ⟨⟩
  exact other rfl

/-- Two names with one field are the same, or neither is that of a constant, and they differ in
nothing but an underscore in front and the case of the first letter behind it. -/
theorem Becomes.collide (h : Becomes cs es) (h' : Becomes ds es) :
    cs = ds ∨ HasSmall cs ∧ HasSmall ds ∧
      AlikeButFirst (withoutUnderscore cs) (withoutUnderscore ds) := by
  cases h with
  | constant none =>
    cases h' with
    | constant _ => exact .inl rfl
    | underscored small => exact absurd small none
    | renamed small other => exact absurd ((Becomes.renamed small other).hasSmall small) none
  | underscored small =>
    cases h' with
    | constant none => exact absurd small none
    | underscored _ => exact .inl rfl
    | renamed small' other =>
      refine .inr ⟨small, small', ?_⟩
      rw [withoutUnderscore_of_ne other]
      exact ⟨Char.toLower_toLower_eq_toLower _, rfl⟩
  | @renamed c cs small other =>
    have kept := (Becomes.renamed small other).hasSmall small
    generalize he : '_' :: c.toLower :: cs = es at h' kept
    cases h' with
    | constant none => exact absurd kept none
    | underscored small' =>
      obtain ⟨-, rfl⟩ := List.cons.inj he
      refine .inr ⟨small, small', ?_⟩
      rw [withoutUnderscore_of_ne other]
      exact ⟨(Char.toLower_toLower_eq_toLower c).symm, rfl⟩
    | renamed small' other' =>
      obtain ⟨first, rfl⟩ := List.cons.inj (List.cons.inj he).2
      refine .inr ⟨small, small', ?_⟩
      rw [withoutUnderscore_of_ne other, withoutUnderscore_of_ne other']
      exact ⟨first, rfl⟩

/-! ## The laws -/

variable {n m : String}

/-- A property is declared for a name that becomes another one as a field. -/
theorem fieldName_of_propertyAlias? (ascii : IsAscii n) {property : String}
    (h : propertyAlias? n = some property) :
    property = n ∧ fieldName n ≠ n ∧ fieldName n = "_" ++ lowerFirst n := by
  rw [propertyAlias?] at h
  split at h
  · rename_i capital
    rw [Bool.and_eq_true, startsUppercase, Bool.not_eq_true'] at capital
    obtain ⟨first, changed⟩ := capital
    cases letters : n.toList with
    | nil =>
      rw [letters] at first
      cases first
    | cons c cs =>
      rw [letters] at first
      have upper : c.isUpper = true := by
        rw [← first]
        exact (if_pos (ascii c (letters ▸ List.mem_cons_self))).symm
      have other : c ≠ '_' := by
        rintro rfl
        cases upper
      have plain : Text.startsWith "_" n = false :=
        Bool.eq_false_iff.mpr fun starts => other ((startsWith_underscore letters).mp starts)
      have renamed : fieldName n = "_" ++ lowerFirst n := by
        rw [fieldName, changed, plain]
        rfl
      refine ⟨(Option.some.inj h).symm, fun same => other ?_, renamed⟩
      rw [renamed] at same
      have front := congrArg String.toList same
      rw [String.toList_append, letters] at front
      exact (List.cons.inj front).1.symm
  · cases h

/-- **The laws of names**, for ASCII: a field of a field has its name; a property is declared for a
name as it is, which the field then differs from; and names with one field are no names of constants
and differ in nothing but an underscore in front and the case of the first letter behind it. -/
theorem fieldName_laws (ascii : IsAscii n) (ascii' : IsAscii m) :
    fieldName (fieldName n) = fieldName n ∧
    (∀ property, propertyAlias? n = some property →
      property = n ∧ fieldName n ≠ n ∧ fieldName n = "_" ++ lowerFirst n) ∧
    (n ≠ m → fieldName n = fieldName m →
      isAllUppercase n = false ∧ isAllUppercase m = false ∧
        AlikeButFirst (withoutUnderscore n.toList) (withoutUnderscore m.toList)) := by
  have becomes := becomes_fieldName ascii
  have becomes' := becomes_fieldName ascii'
  have again := becomes_fieldName (becomes.ascii ascii)
  refine ⟨String.toList_inj.mp (becomes.again again),
    fun property => fieldName_of_propertyAlias? ascii, fun different same => ?_⟩
  rw [← same] at becomes'
  rcases becomes.collide becomes' with equal | ⟨small, small', alike⟩
  · exact absurd (String.toList_inj.mp equal) different
  · refine ⟨Bool.eq_false_iff.mpr fun upper => ?_, Bool.eq_false_iff.mpr fun upper => ?_, alike⟩
    · exact (isAllUppercase_iff ascii).mp upper small
    · exact (isAllUppercase_iff ascii').mp upper small'

/-- Two names with one field, which is another name for both properties and constants. -/
theorem fieldName_laws_owner :
    IsAscii "Owner" ∧ IsAscii "_owner" ∧ fieldName (fieldName "Owner") = fieldName "Owner" ∧
      propertyAlias? "Owner" = some "Owner" ∧ fieldName "Owner" ≠ "Owner" ∧
      fieldName "Owner" = fieldName "_owner" ∧ isAllUppercase "Owner" = false ∧
      isAllUppercase "_owner" = false ∧
      AlikeButFirst (withoutUnderscore "Owner".toList) (withoutUnderscore "_owner".toList) := by
  have ascii : IsAscii "Owner" := by decide
  have ascii' : IsAscii "_owner" := by decide
  have property : propertyAlias? "Owner" = some "Owner" := by decide
  have same : fieldName "Owner" = fieldName "_owner" := by decide
  obtain ⟨again, declared, collide⟩ := fieldName_laws ascii ascii'
  exact ⟨ascii, ascii', again, property, (declared _ property).2.1, same,
    collide (by decide) same⟩

end Naming

end GosuForge
