import TreePredicate.Text.Blank
import TreePredicate.Text.Digit
import TreePredicate.Text.Word

/-!
# Classes of characters

* `inRanges_of_covers`, `exists_range_of_inRanges` : membership in ranges that come in order, and
  what it takes;
* `isWord_of_isDigit` : digits are word characters;
* `isBlank_of_isWord` : word characters are not blank;
* `digitValue?_ascii` : the value of the digits of the canonical form.
-/

set_option autoImplicit false

namespace TreePredicate.Text

/-! ## Ranges -/

/-- Ranges from a bound on come in ascending order. -/
def ascends : Nat → List (Nat × Nat) → Bool
  | _, [] => true
  | bound, (first, last) :: rest =>
    bound.ble first && first.ble last && ascends (last + 1) rest

/-- One of some ranges covers a range. -/
def covers (ranges : List (Nat × Nat)) (first last : Nat) : Bool :=
  ranges.any fun r => r.1.ble first && last.ble r.2

/-- Two ranges have nothing in common. -/
def apart (r s : Nat × Nat) : Bool := r.2.blt s.1 || s.2.blt r.1

theorem exists_range_of_inRanges {ranges : List (Nat × Nat)} {code : Nat}
    (h : inRanges ranges code = true) : ∃ r ∈ ranges, r.1 ≤ code ∧ code ≤ r.2 := by
  induction ranges with
  | nil => cases h
  | cons r rest ih =>
    obtain ⟨first, last⟩ := r
    rw [inRanges] at h
    split at h
    · cases h
    · next hfirst =>
      rw [Bool.or_eq_true, decide_eq_true_iff] at h
      rcases h with hlast | hrest
      · exact ⟨_, List.mem_cons_self, Nat.le_of_not_lt hfirst, hlast⟩
      · obtain ⟨r, hr, hcode⟩ := ih hrest
        exact ⟨r, List.mem_cons_of_mem _ hr, hcode⟩

theorem le_of_ascends {bound : Nat} {ranges : List (Nat × Nat)} (h : ascends bound ranges = true)
    {r : Nat × Nat} (hr : r ∈ ranges) : bound ≤ r.1 := by
  induction ranges generalizing bound with
  | nil => cases hr
  | cons s rest ih =>
    obtain ⟨first, last⟩ := s
    rw [ascends, Bool.and_eq_true, Bool.and_eq_true, Nat.ble_eq, Nat.ble_eq] at h
    obtain ⟨⟨hbound, horder⟩, hrest⟩ := h
    rcases List.mem_cons.mp hr with rfl | hr
    · exact hbound
    · have := ih hrest hr
      omega

theorem inRanges_of_mem {bound : Nat} {ranges : List (Nat × Nat)} (h : ascends bound ranges = true)
    {r : Nat × Nat} (hr : r ∈ ranges) {code : Nat} (hfirst : r.1 ≤ code) (hlast : code ≤ r.2) :
    inRanges ranges code = true := by
  induction ranges generalizing bound with
  | nil => cases hr
  | cons s rest ih =>
    obtain ⟨first, last⟩ := s
    rw [ascends, Bool.and_eq_true, Bool.and_eq_true, Nat.ble_eq, Nat.ble_eq] at h
    obtain ⟨⟨-, horder⟩, hrest⟩ := h
    rw [inRanges]
    rcases List.mem_cons.mp hr with rfl | hr
    · rw [if_neg (Nat.not_lt.mpr hfirst), decide_eq_true hlast, Bool.true_or]
    · have := le_of_ascends hrest hr
      rw [if_neg (by omega), ih hrest hr, Bool.or_true]

theorem inRanges_of_covers {bound : Nat} {ranges : List (Nat × Nat)}
    (h : ascends bound ranges = true) {first last : Nat} (hcovers : covers ranges first last = true)
    {code : Nat} (hfirst : first ≤ code) (hlast : code ≤ last) : inRanges ranges code = true := by
  obtain ⟨r, hr, hboth⟩ := List.any_eq_true.mp hcovers
  rw [Bool.and_eq_true, Nat.ble_eq, Nat.ble_eq] at hboth
  exact inRanges_of_mem h hr (Nat.le_trans hboth.1 hfirst) (Nat.le_trans hlast hboth.2)

/-! ## Classes -/

theorem isWord_of_isDigit {c : Char} (h : isDigit c = true) : isWord c = true := by
  have hascends : ascends 0 wordRanges = true := by decide +kernel
  have hblocks : (digitBlocks.all fun first => covers wordRanges first (first + 9)) = true := by
    decide +kernel
  unfold isDigit digitValue? at h
  rw [Option.isSome_map] at h
  obtain ⟨first, hfound⟩ := Option.isSome_iff_exists.mp h
  have hcode := List.find?_some hfound
  simp only [Bool.and_eq_true, decide_eq_true_eq] at hcode
  exact inRanges_of_covers hascends
    (List.all_eq_true.mp hblocks first (List.mem_of_find?_eq_some hfound)) hcode.1 (by omega)

theorem isBlank_of_isWord {c : Char} (h : isWord c = true) : isBlank c = false := by
  have hapart : (blankRanges.all fun r => wordRanges.all (apart r)) = true := by decide +kernel
  rw [← Bool.not_eq_true]
  intro hblank
  obtain ⟨r, hr, hrcode⟩ := exists_range_of_inRanges hblank
  obtain ⟨s, hs, hscode⟩ := exists_range_of_inRanges h
  have hrs := List.all_eq_true.mp (List.all_eq_true.mp hapart r hr) s hs
  rw [apart, Bool.or_eq_true, Nat.blt_eq, Nat.blt_eq] at hrs
  omega

theorem digitValue?_ascii {c : Char} (h : c.isDigit = true) :
    digitValue? c = some (c.toNat - '0'.toNat) := by
  have hcode : 48 ≤ c.toNat ∧ c.toNat ≤ 57 := by
    unfold Char.isDigit at h
    simp only [Bool.and_eq_true, decide_eq_true_eq] at h
    exact h
  unfold digitValue? digitBlocks
  rw [List.find?_cons_of_pos (by simp only [Bool.and_eq_true, decide_eq_true_eq]; omega)]
  rfl

theorem isDigit_ascii {c : Char} (h : c.isDigit = true) : isDigit c = true := by
  unfold isDigit
  rw [digitValue?_ascii h]
  rfl

end TreePredicate.Text
