/-!
# Code point ranges

Character classes of the Unicode standard are given as lists of closed ranges of code points.

Results:

* `inRanges_iff`: membership in a list of ranges is membership in one of them.
-/

namespace PageShell.Unicode

/-- A closed range of code points, by its first and its last element. -/
abbrev Range := Nat × Nat

/-- Whether a code point lies in one of the ranges. -/
def inRanges : List Range → Nat → Bool
  | [], _ => false
  | r :: rest, n => (r.1 ≤ n && n ≤ r.2) || inRanges rest n

theorem inRanges_iff (rs : List Range) (n : Nat) :
    inRanges rs n = true ↔ ∃ r ∈ rs, r.1 ≤ n ∧ n ≤ r.2 := by
  induction rs with
  | nil => simp [inRanges]
  | cons r rs ih => simp [inRanges, ih]

end PageShell.Unicode
