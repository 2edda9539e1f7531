import PageShell.Text.Basic
import PageShell.Unicode.Range

/-!
# Blank characters, trimming and lines

The blank characters are those with the Unicode property `White_Space`.

Results:

* `trim_trim`: trimming once is enough.
* `trimEnd_eq_nil_iff`: nothing is left of a text of blank characters, and of no other.
-/

namespace PageShell

namespace Unicode

/-- The code points with the property `White_Space`. -/
def whiteSpace : List Range :=
  [(0x9, 0xD), (0x20, 0x20), (0x85, 0x85), (0xA0, 0xA0), (0x1680, 0x1680), (0x2000, 0x200A),
   (0x2028, 0x2029), (0x202F, 0x202F), (0x205F, 0x205F), (0x3000, 0x3000)]

/-- Whether a character has the property `White_Space`. -/
def isBlank (c : Char) : Bool := inRanges whiteSpace c.toNat

end Unicode

namespace Text

open Unicode (isBlank)

/-! ## Trimming -/

/-- A text without the blank characters at its end. -/
def trimEnd : Text → Text
  | [] => []
  | c :: rest =>
    match trimEnd rest with
    | [] => if isBlank c then [] else [c]
    | d :: ds => c :: d :: ds

/-- A text without the blank characters at either end. -/
def trim (t : Text) : Text := trimEnd (t.dropWhile isBlank)

/-- Whether a text has no character that is not blank. -/
def isBlankText (t : Text) : Bool := t.all isBlank

theorem trimEnd_cons (c : Char) (t : Text) :
    trimEnd (c :: t) = if trimEnd t = [] ∧ isBlank c = true then [] else c :: trimEnd t := by
  cases h : trimEnd t <;> by_cases hc : isBlank c = true <;> simp [trimEnd, h, hc]

theorem trimEnd_trimEnd (t : Text) : trimEnd (trimEnd t) = trimEnd t := by
  induction t with
  | nil => rfl
  | cons c t ih =>
    rw [trimEnd_cons]
    split
    · rfl
    · rename_i h
      rw [trimEnd_cons, ih, if_neg h]

theorem trimEnd_eq_nil_iff (t : Text) : trimEnd t = [] ↔ isBlankText t = true := by
  induction t with
  | nil => simp [trimEnd, isBlankText]
  | cons c t ih =>
    rw [trimEnd_cons]
    simp only [isBlankText, List.all_cons, Bool.and_eq_true] at ih ⊢
    rw [← ih]
    constructor
    · intro h
      by_cases hb : trimEnd t = [] ∧ isBlank c = true
      · exact ⟨hb.2, hb.1⟩
      · simp [hb] at h
    · rintro ⟨hc, ht⟩
      simp [hc, ht]

theorem dropWhile_dropWhile (t : Text) :
    (t.dropWhile isBlank).dropWhile isBlank = t.dropWhile isBlank := by
  induction t with
  | nil => rfl
  | cons c t ih => by_cases hc : isBlank c = true <;> simp [hc, ih]

theorem dropWhile_trimEnd (t : Text) (h : t.dropWhile isBlank = t) :
    (trimEnd t).dropWhile isBlank = trimEnd t := by
  cases t with
  | nil => rfl
  | cons c t =>
    have hc : isBlank c = false := by
      cases hb : isBlank c with
      | false => rfl
      | true =>
        rw [List.dropWhile_cons_of_pos hb] at h
        have := congrArg List.length h
        have := (List.dropWhile_suffix (l := t) isBlank).length_le
        simp at *
        omega
    rw [trimEnd_cons]
    simp [hc]

theorem trim_trim (t : Text) : trim (trim t) = trim t := by
  unfold trim
  rw [dropWhile_trimEnd _ (dropWhile_dropWhile t), trimEnd_trimEnd]

/-! ## Lines -/

/-- A line that ended in a line feed, without a carriage return in front of it. -/
def dropCarriageReturn (line : Text) : Text :=
  if line.getLast? = some '\r' then line.dropLast else line

/-- The lines of a text. A line feed ends a line, together with a carriage return before it;
what follows the last line feed is a line only if it is not empty. -/
def lines (t : Text) : List Text :=
  let pieces := fields (· == '\n') t
  pieces.dropLast.map dropCarriageReturn ++ (pieces.getLast?.toList.filter (· ≠ []))

end Text

end PageShell
