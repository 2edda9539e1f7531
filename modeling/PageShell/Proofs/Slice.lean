import PageShell.Text.Basic

/-!
# Cutting texts at byte offsets

An offset is in the middle of a code point, beyond the end of the text, or between two parts that
make up the text. Only in the last case can the text be cut there.

Results:

* `cut?_eq_some_iff`: cutting at an offset gives the two parts of the text of which the first has
  that length, and fails if there are no such parts.
* `slice?_eq_some_iff`: a slice is what lies between two places of the text.
* `append_inj_of_utf8Length`: the parts of a text are fixed by the length of the first one.
-/

namespace PageShell.Text

/-- The parts of a text before and behind a byte offset. -/
def cut? : Text → Nat → Option (Text × Text)
  | [], n => if n = 0 then some ([], []) else none
  | c :: rest, n =>
    if n = 0 then some ([], c :: rest)
    else if c.utf8Size ≤ n then
      (cut? rest (n - c.utf8Size)).map fun parts => (c :: parts.1, parts.2)
    else none

/-- The part of a text between two byte offsets. -/
def slice? (t : Text) (i j : Nat) : Option Text := do
  let (before, _) ← cut? t j
  let (_, part) ← cut? before i
  return part

/-! ## Cutting -/

theorem utf8Length_eq_zero {t : Text} (h : utf8Length t = 0) : t = [] := by
  cases t with
  | nil => rfl
  | cons c t =>
    have := c.utf8Size_pos
    rw [utf8Length_cons] at h
    omega

theorem cut?_append (u v : Text) : cut? (u ++ v) (utf8Length u) = some (u, v) := by
  induction u with
  | nil => cases v <;> rfl
  | cons c u ih =>
    have hc := c.utf8Size_pos
    rw [List.cons_append, cut?, utf8Length_cons, if_neg (by omega), if_pos (by omega),
      show c.utf8Size + utf8Length u - c.utf8Size = utf8Length u by omega, ih]
    rfl

theorem append_of_cut? {t u v : Text} {n : Nat} (h : cut? t n = some (u, v)) :
    u ++ v = t ∧ utf8Length u = n := by
  induction t generalizing n u with
  | nil =>
    rw [cut?] at h
    split at h
    · rename_i hn
      cases h
      exact ⟨rfl, hn.symm⟩
    · simp at h
  | cons c t ih =>
    rw [cut?] at h
    split at h
    · rename_i hn
      cases h
      exact ⟨rfl, hn.symm⟩
    · split at h
      · rename_i hc
        obtain ⟨⟨u', v'⟩, hcut, heq⟩ := Option.map_eq_some_iff.1 h
        cases heq
        obtain ⟨ht, hlen⟩ := ih hcut
        refine ⟨by rw [List.cons_append, ht], ?_⟩
        rw [utf8Length_cons, hlen]
        omega
      · simp at h

/-- **An offset cuts a text into the parts of which the first has its length.** -/
theorem cut?_eq_some_iff {t u v : Text} {n : Nat} :
    cut? t n = some (u, v) ↔ u ++ v = t ∧ utf8Length u = n := by
  constructor
  · exact append_of_cut?
  · rintro ⟨rfl, rfl⟩
    exact cut?_append u v

theorem append_inj_of_utf8Length {u v u' v' : Text} (h : u ++ v = u' ++ v')
    (hlen : utf8Length u = utf8Length u') : u = u' ∧ v = v' := by
  have hcut := cut?_append u v
  rw [h, hlen, cut?_append] at hcut
  cases hcut
  exact ⟨rfl, rfl⟩

/-! ## Slices -/

theorem slice?_append (u m v : Text) :
    slice? (u ++ m ++ v) (utf8Length u) (utf8Length (u ++ m)) = some m := by
  unfold slice?
  rw [cut?_append]
  simp [cut?_append]

theorem slice?_eq_some_iff {t m : Text} {i j : Nat} :
    slice? t i j = some m ↔
      ∃ u v, u ++ m ++ v = t ∧ utf8Length u = i ∧ utf8Length (u ++ m) = j := by
  constructor
  · intro h
    obtain ⟨⟨before, v⟩, hj, h⟩ := Option.bind_eq_some_iff.1 h
    obtain ⟨⟨u, part⟩, hi, h⟩ := Option.bind_eq_some_iff.1 h
    cases h
    obtain ⟨rfl, rfl⟩ := append_of_cut? hj
    obtain ⟨rfl, rfl⟩ := append_of_cut? hi
    exact ⟨u, v, rfl, rfl, rfl⟩
  · rintro ⟨u, v, rfl, rfl, rfl⟩
    exact slice?_append u m v

end PageShell.Text
