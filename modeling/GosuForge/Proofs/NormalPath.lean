import GosuForge.Proofs.Lines

/-!
# Spellings of a path

Many texts are read as one path. Its own text is the one among them that is normal.

* `Path.IsNormal`: what a text is read as, `Path.isNormal_ofString`;
* `Path.ofString_toString`: the text of a normal path is read as that path;
* `PathSpelling`: a path as it is handed over, and `PathSpelling.read_eq_iff`: two spellings are
  read as one path just if their normal texts are the same.
-/

namespace GosuForge

/-- Texts that have no separator in them are found again where they are joined by it. -/
theorem Text.split_join {sep : Char} {texts : List String}
    (plain : ∀ text ∈ texts, sep ∉ text.toList) (nonempty : texts ≠ []) :
    split sep (join (String.singleton sep) texts) = texts := by
  have parts : splitChars sep (join (String.singleton sep) texts).toList =
      texts.map String.toList := by
    rw [splitChars_eq_splitOn, toList_join, String.toList_singleton]
    refine List.splitOn_intercalate sep (fun cs hcs => ?_) (by simpa using nonempty)
    obtain ⟨text, ht, rfl⟩ := List.mem_map.mp hcs
    exact plain text ht
  rw [split, parts, List.map_map]
  simp

namespace Path

/-- The names of a path are not empty, none is a single point, and none has a slash in it. -/
def IsNormal (p : Path) : Prop := ∀ part ∈ p.parts, isName part = true ∧ '/' ∉ part.toList

theorem isNormal_ofString (s : String) : (ofString s).IsNormal := by
  intro part hp
  obtain ⟨hp, name⟩ := List.mem_filter.mp hp
  obtain ⟨cs, hcs, rfl⟩ := List.mem_map.mp hp
  refine ⟨name, ?_⟩
  rw [String.toList_ofList]
  exact Text.not_mem_of_mem_splitChars hcs

/-! ## The text of a normal path -/

/-- What names are joined to does not begin with a slash. -/
theorem IsNormal.join_ne_cons {p : Path} (h : p.IsNormal) (cs : List Char) :
    (Text.join "/" p.parts).toList ≠ '/' :: cs := by
  intro e
  cases hp : p.parts with
  | nil =>
    rw [hp] at e
    cases e
  | cons part rest =>
    obtain ⟨name, noSlash⟩ := h part (hp ▸ List.mem_cons_self)
    have nonempty : part.toList ≠ [] := by
      intro empty
      rw [String.toList_eq_nil_iff.mp empty] at name
      cases name
    obtain ⟨c, others, hc⟩ := List.exists_cons_of_ne_nil nonempty
    have first : part.toList <+: (Text.join "/" p.parts).toList := by
      rw [hp]
      cases rest with
      | nil => exact List.prefix_rfl
      | cons next rest =>
        rw [Text.join, String.toList_append, String.toList_append, List.append_assoc]
        exact List.prefix_append _ _
    rw [e, hc, List.cons_prefix_cons] at first
    rw [hc] at noSlash
    exact noSlash (first.1 ▸ List.mem_cons_self)

theorem anchorOf_append (anchor : Anchor) {cs : List Char} (h : ∀ ds, cs ≠ '/' :: ds) :
    anchorOf ((anchorText anchor).toList ++ cs) = anchor := by
  cases cs with
  | nil => cases anchor <;> rfl
  | cons c cs =>
    have other : c ≠ '/' := fun e => h cs (e ▸ rfl)
    cases anchor <;> simp [anchorText, anchorOf, other]

/-- The slashes of an anchor make no names. -/
theorem filter_split_append (anchor : Anchor) (s : String) :
    (Text.split '/' (anchorText anchor ++ s)).filter isName = (Text.split '/' s).filter isName := by
  cases anchor <;> simp [anchorText, Text.split, Text.splitChars, isName]

theorem IsNormal.filter_split_join {p : Path} (h : p.IsNormal) :
    (Text.split '/' (Text.join "/" p.parts)).filter isName = p.parts := by
  cases hp : p.parts with
  | nil => rfl
  | cons part rest =>
    have parts : Text.split '/' (Text.join "/" p.parts) = p.parts :=
      Text.split_join (fun text ht => (h text ht).2) (hp ▸ List.cons_ne_nil part rest)
    rw [← hp, parts]
    exact List.filter_eq_self.mpr fun text ht => (h text ht).1

/-- **The text of a normal path is read as that path.** -/
theorem ofString_toString {p : Path} (h : p.IsNormal) : ofString p.toString = p := by
  obtain ⟨anchor, parts⟩ := p
  rw [toString]
  split
  · rename_i nothing
    obtain ⟨rfl, rfl⟩ : anchor = .relative ∧ parts = [] := by simpa using nothing
    rfl
  · have anchored : anchorOf (anchorText anchor ++ Text.join "/" parts).toList = anchor := by
      rw [String.toList_append]
      exact anchorOf_append anchor h.join_ne_cons
    have named :
        (Text.split '/' (anchorText anchor ++ Text.join "/" parts)).filter isName = parts :=
      (filter_split_append anchor _).trans h.filter_split_join
    rw [ofString, anchored, named]

/-- Normal paths are told apart by their texts. -/
theorem IsNormal.eq_iff_toString_eq {p q : Path} (hp : p.IsNormal) (hq : q.IsNormal) :
    p = q ↔ p.toString = q.toString := by
  constructor
  · rintro rfl
    rfl
  · intro h
    rw [← ofString_toString hp, h, ofString_toString hq]

end Path

/-! ## Spellings -/

/-- A path as it is handed over: any text, or a path that has been read before. -/
inductive PathSpelling
  | text (s : String)
  | path (p : Path) (normal : p.IsNormal)

namespace PathSpelling

def read : PathSpelling → Path
  | text s => Path.ofString s
  | path p _ => p

/-- The normal text of what is handed over. -/
def normal (place : PathSpelling) : String := place.read.toString

theorem isNormal_read (place : PathSpelling) : place.read.IsNormal := by
  cases place with
  | text s => exact Path.isNormal_ofString s
  | path p normal => exact normal

/-- **Two spellings are one path just if their normal texts are the same.** -/
theorem read_eq_iff {place other : PathSpelling} :
    place.read = other.read ↔ place.normal = other.normal :=
  place.isNormal_read.eq_iff_toString_eq other.isNormal_read

end PathSpelling

end GosuForge
