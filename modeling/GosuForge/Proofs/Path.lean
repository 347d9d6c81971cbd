import GosuForge.Path
import Mathlib.Data.List.Infix

/-!
# Names below a directory

* `Path.IsBelow`: a path that goes on from a directory, and never up;
* `Path.LeadsDown`: a text that is joined to a directory without going up, `Path.join_of_leadsDown`;
* `Path.IsEntryName`: a text that is one name in a path.
-/

namespace GosuForge

theorem Text.splitChars_of_not_mem {sep : Char} {cs : List Char} (h : sep ∉ cs) :
    splitChars sep cs = [cs] := by
  induction cs with
  | nil => rfl
  | cons c cs ih =>
    obtain ⟨first, rest⟩ := List.ne_and_not_mem_of_not_mem_cons h
    rw [splitChars, if_neg (Ne.symm first), ih rest]

/-- The parts of a text hold nothing but what the text holds. -/
theorem Text.mem_of_mem_splitChars {sep c : Char} {cs part : List Char} (hp : part ∈ splitChars sep cs)
    (hc : c ∈ part) : c ∈ cs := by
  induction cs generalizing part with
  | nil =>
    rw [splitChars, List.mem_singleton] at hp
    exact absurd (hp ▸ hc) List.not_mem_nil
  | cons d cs ih =>
    rw [splitChars] at hp
    split at hp
    · rcases List.mem_cons.mp hp with rfl | hp
      · exact absurd hc List.not_mem_nil
      · exact List.mem_cons_of_mem _ (ih hp hc)
    · split at hp
      · rw [List.mem_singleton] at hp
        subst hp
        exact List.mem_cons.mpr (.inl (List.mem_singleton.mp hc))
      · rename_i first others parts
        rcases List.mem_cons.mp hp with rfl | hp
        · rcases List.mem_cons.mp hc with rfl | hc
          · exact List.mem_cons_self
          · exact List.mem_cons_of_mem _ (ih (parts ▸ List.mem_cons_self) hc)
        · exact List.mem_cons_of_mem _ (ih (parts ▸ List.mem_cons_of_mem _ hp) hc)

theorem Text.toList_join (sep : String) (texts : List String) :
    (join sep texts).toList = sep.toList.intercalate (texts.map String.toList) := by
  induction texts using join.induct with
  | case1 => rfl
  | case2 s => simp [join, List.intercalate]
  | case3 s t rest ih => simp [join, ih, List.intercalate]

/-- Each of some texts stands in what they are joined to. -/
theorem Text.infix_join (sep : String) {text : String} {texts : List String} (h : text ∈ texts) :
    text.toList <:+: (Text.join sep texts).toList := by
  induction texts using Text.join.induct with
  | case1 => cases h
  | case2 s =>
    rw [List.mem_singleton.mp h]
    exact List.infix_rfl
  | case3 s t rest ih =>
    rw [Text.join, String.toList_append, String.toList_append]
    rcases List.mem_cons.mp h with rfl | h
    · rw [List.append_assoc]
      exact (List.prefix_append _ _).isInfix
    · exact (ih h).trans (List.suffix_append _ _).isInfix

namespace Path

/-- A path that goes on from a directory by at least one name, without going up. -/
def IsBelow (p directory : Path) : Prop :=
  ∃ names, names ≠ [] ∧ ".." ∉ names ∧ p = ⟨directory.anchor, directory.parts ++ names⟩

theorem IsBelow.trans {p q directory : Path} (h : p.IsBelow q) (h' : q.IsBelow directory) :
    p.IsBelow directory := by
  obtain ⟨names, nonempty, down, rfl⟩ := h
  obtain ⟨before, -, downBefore, rfl⟩ := h'
  refine ⟨before ++ names, List.append_ne_nil_of_right_ne_nil before nonempty, ?_, ?_⟩
  · rw [List.mem_append]
    exact not_or.mpr ⟨downBefore, down⟩
  · rw [List.append_assoc]

/-- A path that goes on from a directory without going up, or the directory itself. -/
def IsWithin (p directory : Path) : Prop :=
  ∃ names, ".." ∉ names ∧ p = ⟨directory.anchor, directory.parts ++ names⟩

theorem IsWithin.refl (p : Path) : p.IsWithin p :=
  ⟨[], List.not_mem_nil, by rw [List.append_nil]⟩

theorem IsWithin.trans {p q directory : Path} (h : p.IsWithin q) (h' : q.IsWithin directory) :
    p.IsWithin directory := by
  obtain ⟨names, down, rfl⟩ := h
  obtain ⟨before, downBefore, rfl⟩ := h'
  refine ⟨before ++ names, ?_, ?_⟩
  · rw [List.mem_append]
    exact not_or.mpr ⟨downBefore, down⟩
  · rw [List.append_assoc]

theorem IsWithin.isBelow {p q directory : Path} (h : p.IsWithin q) (h' : q.IsBelow directory) :
    p.IsBelow directory := by
  obtain ⟨names, down, rfl⟩ := h
  obtain ⟨before, nonempty, downBefore, rfl⟩ := h'
  refine ⟨before ++ names, List.append_ne_nil_of_left_ne_nil nonempty names, ?_, ?_⟩
  · rw [List.mem_append]
    exact not_or.mpr ⟨downBefore, down⟩
  · rw [List.append_assoc]

theorem IsBelow.isWithin {p directory : Path} (h : p.IsBelow directory) : p.IsWithin directory := by
  obtain ⟨names, -, down, e⟩ := h
  exact ⟨names, down, e⟩

/-- A text that says no absolute path and none that goes up. -/
structure LeadsDown (s : String) : Prop where
  relative : (ofString s).anchor = .relative
  notUp : ".." ∉ (ofString s).parts

theorem join_of_leadsDown (p : Path) {s : String} (h : LeadsDown s) :
    p.join s = ⟨p.anchor, p.parts ++ (ofString s).parts⟩ := by
  rw [join]
  exact if_pos h.relative

theorem isWithin_join (p : Path) {s : String} (h : LeadsDown s) : (p.join s).IsWithin p :=
  ⟨_, h.notUp, p.join_of_leadsDown h⟩

theorem isBelow_join (p : Path) {s : String} (h : LeadsDown s)
    (on : (ofString s).parts ≠ []) : (p.join s).IsBelow p :=
  ⟨_, on, h.notUp, p.join_of_leadsDown h⟩

/-- Within a relative directory, nothing but a text that leads down is joined to a path that stays. -/
theorem leadsDown_of_join {p directory : Path} {s : String}
    (relative : directory.anchor = .relative) (hp : p.IsWithin directory)
    (h : (p.join s).IsWithin directory) : LeadsDown s := by
  obtain ⟨before, -, rfl⟩ := hp
  obtain ⟨names, down, e⟩ := h
  rw [join] at e
  split at e
  · rename_i further
    have parts : directory.parts ++ before ++ (ofString s).parts = directory.parts ++ names :=
      congrArg Path.parts e
    rw [List.append_assoc] at parts
    have behind := List.append_cancel_left parts
    exact ⟨further, fun up => down (behind ▸ List.mem_append_right before up)⟩
  · rename_i absolute
    exact absurd ((congrArg anchor e).trans relative) absolute

theorem parts_ne_nil_of_join {directory : Path} {s : String}
    (relative : directory.anchor = .relative) (h : (directory.join s).IsBelow directory) :
    (ofString s).parts ≠ [] := by
  have further := leadsDown_of_join relative (.refl directory) h.isWithin
  obtain ⟨names, nonempty, -, e⟩ := h
  rw [join_of_leadsDown _ further] at e
  rwa [List.append_cancel_left (congrArg parts e)]

/-- A text that is one name in a path, of an entry in the directory before it, unless it is empty. -/
structure IsEntryName (s : String) : Prop where
  noSlash : '/' ∉ s.toList
  notHere : s ≠ "."
  notUp : s ≠ ".."

theorem IsEntryName.parts_eq {s : String} (h : IsEntryName s) (nonempty : s ≠ "") :
    (ofString s).parts = [s] := by
  rw [ofString, Text.split, Text.splitChars_of_not_mem h.noSlash, List.map_singleton,
    String.ofList_toList]
  simp [isName, nonempty, h.notHere]

theorem IsEntryName.leadsDown {s : String} (h : IsEntryName s) (nonempty : s ≠ "") :
    LeadsDown s where
  relative := by
    have noSlash := h.noSlash
    rw [ofString]
    cases hs : s.toList with
    | nil => rfl
    | cons c cs =>
      rw [hs] at noSlash
      have other : c ≠ '/' := fun e => noSlash (e ▸ List.mem_cons_self)
      simp [anchorOf, other]
  notUp := by
    rw [h.parts_eq nonempty, List.mem_singleton]
    exact Ne.symm h.notUp

/-- The name of an entry stays one when an extension without a slash is put to it. -/
theorem IsEntryName.append {s extension : String} (h : IsEntryName s) (nonempty : s ≠ "")
    (noSlash : '/' ∉ extension.toList) : IsEntryName (s ++ extension) ∧ s ++ extension ≠ "" := by
  -- A text that `s` begins is longer than `s`, and the shorter ones of points are no names.
  have begins {t : String} (e : s ++ extension = t) : s.toList ∈ t.toList.inits := by
    rw [← e, String.toList_append, List.mem_inits]
    exact List.prefix_append _ _
  have other (t : String) (ht : s ≠ t) : s.toList ≠ t.toList := fun e => ht (String.toList_inj.mp e)
  refine ⟨⟨?_, fun e => ?_, fun e => ?_⟩, fun e => ?_⟩
  · rw [String.toList_append, List.mem_append]
    exact not_or.mpr ⟨h.noSlash, noSlash⟩
  · rcases (by simpa using begins e : s = "" ∨ s.toList = ['.']) with e | e
    · exact nonempty e
    · exact other "." h.notHere e
  · rcases (by simpa using begins e : s = "" ∨ s.toList = ['.'] ∨ s.toList = ['.', '.']) with
      e | e | e
    · exact nonempty e
    · exact other "." h.notHere e
    · exact other ".." h.notUp e
  · exact nonempty (by simpa using begins e)

/-- The suffix of a name is what follows its last point, unless nothing stands before the point. -/
theorem suffix_eq {p : Path} {stem extension : String} (h : p.name = stem ++ "." ++ extension)
    (noPoint : '.' ∉ extension.toList) (nonempty : extension ≠ "") :
    p.suffix = if stem = "" then "" else "." ++ extension := by
  have reversed : p.name.toList.reverse =
      extension.toList.reverse ++ '.' :: stem.toList.reverse := by
    rw [h]
    simp
  have after : p.name.toList.reverse.takeWhile (· ≠ '.') = extension.toList.reverse := by
    rw [reversed, List.takeWhile_append_of_pos, List.takeWhile_cons_of_neg (by simp),
      List.append_nil]
    intro c hc
    have : c ≠ '.' := fun e => noPoint (e ▸ List.mem_reverse.mp hc)
    simpa using this
  have before : p.name.toList.reverse.drop (extension.toList.reverse.length + 1) =
      stem.toList.reverse := by
    rw [reversed, List.drop_append]
    simp
  have given : extension.toList.reverse.isEmpty = false := by
    simpa [String.toList_eq_nil_iff] using nonempty
  simp only [suffix, after, before, given, Bool.false_or]
  by_cases hs : stem = ""
  · subst hs
    rfl
  · have some : stem.toList.reverse.isEmpty = false := by
      simpa [String.toList_eq_nil_iff] using hs
    rw [some, if_neg hs, List.reverse_reverse]
    apply String.toList_inj.mp
    simp

end Path

end GosuForge
