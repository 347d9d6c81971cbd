import GosuForge.Text.Case
import Mathlib.Data.List.Basic

/-!
# Lower case

A text in lower case has no other lower case: what a capital becomes is no capital, be it a letter,
an accent or a sigma at the end of a word.

* `Text.Shift.misses`: none of the characters that a run of capitals becomes is in another run;
* `Text.IsLow`: a character that stands for itself in lower case;
* `Text.isLow_of_mem_lowerChar`: what a character becomes;
* `Text.lower_lower`: lower case of lower case.
-/

namespace GosuForge.Text

/-! ## The runs of the table -/

namespace Shift

/-- None of the code points that `s` leads to is covered by `t`: they are all before it or behind
it, or both go in steps of two and never meet. -/
def misses (s t : Shift) : Bool :=
  s.target + (s.last - s.first) < t.first || t.last < s.target ||
    (s.step == 2 || s.first == s.last) && t.step == 2 && (s.target + t.first) % 2 == 1

/-- The code points that `s` leads to are characters beyond ASCII without an expansion. -/
def LeadsToPlain (s : Shift) : Prop :=
  0x130 < s.target ∧ s.target + (s.last - s.first) < 0xD800 ∨
    0xDFFF < s.target ∧ s.target + (s.last - s.first) < 0x110000 ∨
    0x80 ≤ s.target ∧ s.target + (s.last - s.first) < 0x130

instance (s : Shift) : Decidable s.LeadsToPlain := by
  unfold LeadsToPlain
  infer_instance

variable {s t : Shift} {code : Nat}

theorem covers_iff :
    s.covers code = true ↔ s.first ≤ code ∧ code ≤ s.last ∧ (code - s.first) % s.step = 0 := by
  simp [covers, and_assoc]

theorem not_covers_move (missed : s.misses t = true) (h : s.covers code = true) :
    t.covers (s.move code) = false := by
  obtain ⟨low, high, even⟩ := covers_iff.mp h
  rw [Bool.eq_false_iff, ne_eq, covers_iff, move]
  rintro ⟨low', high', even'⟩
  simp only [misses, Bool.or_eq_true, Bool.and_eq_true, decide_eq_true_eq, beq_iff_eq] at missed
  rcases missed with (before | behind) | ⟨⟨steps, two⟩, odd⟩
  · omega
  · omega
  · rw [two] at even'
    rcases steps with two' | single
    · rw [two'] at even
      omega
    · omega

end Shift

theorem misses_of_mem {s t : Shift} (hs : s ∈ lowerShifts) (ht : t ∈ lowerShifts) :
    s.misses t = true := by
  have all : (lowerShifts.all fun s => lowerShifts.all s.misses) = true := by decide +kernel
  exact List.all_eq_true.mp (List.all_eq_true.mp all s hs) t ht

/-- All runs lead beyond ASCII but one, the sign for Kelvin. -/
theorem leadsToPlain_of_mem :
    ∀ s ∈ lowerShifts, s.LeadsToPlain ∨ s = ⟨0x212A, 0x212A, 1, 0x6B⟩ := by decide +kernel

/-! ## Characters -/

/-- A character that stands for itself in lower case. -/
def IsLow (c : Char) : Prop := lowerChar c = [c]

instance (c : Char) : Decidable (IsLow c) := by
  unfold IsLow
  infer_instance

theorem isLow_toLower {c : Char} (h : c.toNat < 0x80) : IsLow c.toLower := by
  have all : ∀ n < 0x80, IsLow (Char.ofNat n).toLower := by decide +kernel
  have own := all c.toNat h
  rwa [Char.ofNat_toNat] at own

theorem isLow_move {s : Shift} (hs : s ∈ lowerShifts) {code : Nat} (h : s.covers code = true) :
    IsLow (Char.ofNat (s.move code)) := by
  obtain ⟨low, high, -⟩ := Shift.covers_iff.mp h
  rcases leadsToPlain_of_mem s hs with plain | rfl
  · have valid : (s.move code).isValidChar := by
      rw [Shift.move, Nat.isValidChar]
      rcases plain with h | h | h <;> omega
    have number : (Char.ofNat (s.move code)).toNat = s.move code := by
      rw [Char.ofNat, dif_pos valid]
      rfl
    have beyond : ¬ s.move code < 0x80 ∧ s.move code ≠ 0x130 := by
      rw [Shift.move]
      rcases plain with h | h | h <;> omega
    have unexpanded : lowerExpansions.find? (·.1 == s.move code) = none := by
      simpa [lowerExpansions] using Ne.symm beyond.2
    have uncovered : lowerShifts.find? (·.covers (s.move code)) = none := by
      refine List.find?_eq_none.mpr fun t ht => ?_
      rw [Shift.not_covers_move (misses_of_mem hs ht) h]
      exact Bool.false_ne_true
    rw [IsLow, lowerChar, number, if_neg beyond.1, convert, number, unexpanded, uncovered]
  · obtain rfl : code = 0x212A := Nat.le_antisymm high low
    decide +kernel

/-- What a character becomes in lower case stays as it is. -/
theorem isLow_of_mem_lowerChar {c d : Char} (h : d ∈ lowerChar c) : IsLow d := by
  by_cases ascii : c.toNat < 0x80
  · rw [lowerChar, if_pos ascii] at h
    rw [List.mem_singleton.mp h]
    exact isLow_toLower ascii
  · have beyond : lowerChar c = convert lowerExpansions lowerShifts c := if_neg ascii
    rw [beyond, convert] at h
    cases expansion : lowerExpansions.find? (·.1 == c.toNat) with
    | some entry =>
      rw [expansion] at h
      obtain ⟨code, hcode, rfl⟩ := List.mem_map.mp h
      have all : ∀ entry ∈ lowerExpansions, ∀ code ∈ entry.2, IsLow (Char.ofNat code) := by
        decide +kernel
      exact all entry (List.mem_of_find?_eq_some expansion) code hcode
    | none =>
      rw [expansion] at h
      cases shift : lowerShifts.find? (·.covers c.toNat) with
      | some s =>
        rw [shift] at h
        rw [List.mem_singleton.mp h]
        have covered := List.find?_some shift
        exact isLow_move (List.mem_of_find?_eq_some shift) covered
      | none =>
        rw [shift] at h
        rw [List.mem_singleton.mp h, IsLow, beyond, convert, expansion, shift]

/-! ## Texts -/

theorem isLow_of_mem_lowerFrom {before cs : List Char} {d : Char} (h : d ∈ lowerFrom before cs) :
    IsLow d := by
  induction cs generalizing before with
  | nil => cases h
  | cons c after ih =>
    rcases List.mem_append.mp h with first | rest
    · by_cases sigma : c = 'Σ'
      · rw [if_pos sigma, List.mem_singleton, lowerSigma] at first
        rw [first]
        split <;> decide +kernel
      · rw [if_neg sigma] at first
        exact isLow_of_mem_lowerChar first
    · exact ih rest

theorem lowerFrom_of_isLow {before cs : List Char} (h : ∀ c ∈ cs, IsLow c) :
    lowerFrom before cs = cs := by
  induction cs generalizing before with
  | nil => rfl
  | cons c after ih =>
    obtain ⟨first, rest⟩ := List.forall_mem_cons.mp h
    have noSigma : c ≠ 'Σ' := by
      rintro rfl
      exact absurd first (by decide +kernel)
    rw [lowerFrom, if_neg noSigma, first, ih rest]
    rfl

/-- **Lower case has no other lower case**, whatever the letters are. -/
theorem lower_lower (s : String) : lower (lower s) = lower s := by
  rw [lower, lower, String.toList_ofList, lowerFrom_of_isLow fun _ => isLow_of_mem_lowerFrom]

end GosuForge.Text
