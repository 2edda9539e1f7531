import Mathlib.Data.List.TakeWhile
import PageShell.Text.Blank

/-!
# Parts of texts

Results:

* `exists_trim_append`, `trim_append`, `trim_between`: a text is its trimmed form with blanks around
  it, and such blanks are trimmed off again.
* `isInfix_append_cons`: a part without some character does not go beyond that character.
* `isInfix_of_cons`, `isInfix_of_concat`: a part begins with its first character and ends with its
  last one.
-/

namespace PageShell.Text

/-! ## Blanks around a text -/

open Unicode (isBlank)

variable {b b' : Text}

theorem trimEnd_append (hb : ∀ x ∈ b, isBlank x = true) (t : Text) :
    trimEnd (t ++ b) = trimEnd t := by
  induction t with
  | nil => exact (trimEnd_eq_nil_iff b).2 (List.all_eq_true.2 hb)
  | cons x t ih => rw [List.cons_append, trimEnd_cons, trimEnd_cons, ih]

theorem trimEnd_concat {y : Char} (hy : isBlank y = false) (t : Text) :
    trimEnd (t ++ [y]) = t ++ [y] := by
  induction t with
  | nil =>
    rw [List.nil_append, trimEnd_cons, if_neg (by simp [hy])]
    rfl
  | cons x t ih => rw [List.cons_append, trimEnd_cons, ih, if_neg (by simp)]

theorem exists_trimEnd_append (t : Text) :
    ∃ b, (∀ x ∈ b, isBlank x = true) ∧ trimEnd t ++ b = t := by
  induction t with
  | nil => exact ⟨[], by simp, rfl⟩
  | cons x t ih =>
    obtain ⟨b, hb, ht⟩ := ih
    rw [trimEnd_cons]
    split
    · rename_i h
      refine ⟨x :: b, ?_, ?_⟩
      · intro y hy
        rcases List.mem_cons.1 hy with rfl | hy
        · exact h.2
        · exact hb y hy
      · rw [h.1, List.nil_append] at ht
        rw [List.nil_append, ht]
    · exact ⟨b, hb, by rw [List.cons_append, ht]⟩

/-- A text is its trimmed form with blanks around it. -/
theorem exists_trim_append (t : Text) :
    ∃ b b', (∀ x ∈ b, isBlank x = true) ∧ (∀ x ∈ b', isBlank x = true) ∧ b ++ trim t ++ b' = t := by
  obtain ⟨b', hb', ht⟩ := exists_trimEnd_append (t.dropWhile isBlank)
  refine ⟨t.takeWhile isBlank, b', fun x hx => List.mem_takeWhile_imp hx, hb', ?_⟩
  rw [trim, List.append_assoc, ht, List.takeWhile_append_dropWhile]

/-- Blanks at the end are trimmed off, also if there is nothing else. -/
theorem trim_append (hb : ∀ x ∈ b, isBlank x = true) (t : Text) : trim (t ++ b) = trim t := by
  rw [trim, trim, List.dropWhile_append]
  split
  · rename_i h
    rw [List.isEmpty_iff.1 h, List.dropWhile_eq_nil_iff.2 hb]
  · exact trimEnd_append hb _

/-- Blanks around a text that neither begins nor ends with one are all that is trimmed off. -/
theorem trim_between {x y : Char} (hb : ∀ x ∈ b, isBlank x = true)
    (hb' : ∀ x ∈ b', isBlank x = true) (hx : isBlank x = false) (hy : isBlank y = false)
    (m : Text) : trim (b ++ (x :: m ++ [y]) ++ b') = x :: m ++ [y] := by
  rw [trim, List.append_assoc, List.dropWhile_append_of_pos hb, List.cons_append, List.cons_append,
    List.dropWhile_cons_of_neg (by simp [hx]), ← List.cons_append, ← List.cons_append,
    trimEnd_append hb', trimEnd_concat hy]

/-! ## Parts on one side of a character -/

/-- A part of a text without the character `x` lies on one side of each `x`. -/
theorem isInfix_append_cons {x : Char} {m u v : Text} (hx : x ∉ m) (h : m <:+: u ++ x :: v) :
    m <:+: u ∨ m <:+: v := by
  -- a beginning of what starts with `x` is empty, as it is a part of `m`
  have hnil : ∀ {k}, k <+: x :: v → k <:+: m → k = [] := by
    intro k hk hkm
    rcases List.prefix_cons_iff.1 hk with rfl | ⟨k', rfl, -⟩
    · rfl
    · exact absurd (hkm.subset List.mem_cons_self) hx
  rcases List.infix_append_iff.1 h with h | h | ⟨k, k', rfl, hk, hk'⟩
  · exact .inl h
  · rcases List.infix_cons_iff.1 h with h | h
    · rw [hnil h List.infix_rfl]
      exact .inl List.nil_infix
    · exact .inr h
  · rw [hnil hk' (List.suffix_append k k').isInfix, List.append_nil]
    exact .inl hk.isInfix

/-- Characters in front that are not its first one do not take part in it. -/
theorem isInfix_of_cons {y : Char} {m b v : Text} (hy : y ∉ b) (h : y :: m <:+: b ++ v) :
    y :: m <:+: v := by
  rcases List.infix_append_iff.1 h with h | h | ⟨k, k', heq, hk, hk'⟩
  · exact absurd (h.subset List.mem_cons_self) hy
  · exact h
  · cases k with
    | nil =>
      rw [heq]
      exact hk'.isInfix
    | cons z k =>
      cases heq
      exact absurd (hk.subset List.mem_cons_self) hy

theorem isInfix_of_concat {y : Char} {m b v : Text} (hy : y ∉ b) (h : m ++ [y] <:+: v ++ b) :
    m ++ [y] <:+: v := by
  rw [← List.reverse_infix, List.reverse_append, List.reverse_append] at h
  rw [← List.reverse_infix, List.reverse_append]
  exact isInfix_of_cons (fun hmem => hy (List.mem_reverse.1 hmem)) h

end PageShell.Text
