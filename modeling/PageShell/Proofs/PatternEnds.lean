import PageShell.Pattern.Search

/-!
# The matches of words and runs

A pattern that is a word matches where the word is next. A run that takes all it can get, with a
character behind it that the run cannot take, matches at one place only.

Results:

* `ends_word`: the only end of a word is behind it.
* `stepOver_eq_append`: which places a run reaches, and where the set goes on.
* `chain_run_single`: a run and a character that it cannot take have one end at most.
-/

namespace PageShell

/-! ## Stepping over several characters -/

namespace Cursor

theorem eq_of_parts {c d : Cursor} (hb : c.behind = d.behind) (ha : c.ahead = d.ahead) : c = d := by
  have hc := c.offset_eq
  have hd := d.offset_eq
  cases c
  cases d
  simp only at hb ha hc hd
  subst hb ha hc hd
  rfl

/-- The place behind the part `m` of what lies ahead, when `rest` follows it. -/
def beyond (c : Cursor) (m rest : Text) : Cursor where
  behind := m.reverse ++ c.behind
  ahead := rest
  offset := c.offset + Text.utf8Length m
  offset_eq := by simp [c.offset_eq, Nat.add_comm]

@[simp] theorem offset_beyond (c : Cursor) (m rest : Text) :
    (c.beyond m rest).offset = c.offset + Text.utf8Length m := rfl

theorem beyond_nil (c : Cursor) : c.beyond [] c.ahead = c := eq_of_parts rfl rfl

theorem beyond_beyond (c : Cursor) (m m' rest rest' : Text) :
    (c.beyond m rest).beyond m' rest' = c.beyond (m ++ m') rest' :=
  eq_of_parts (by simp [beyond]) rfl

theorem step_eq_beyond (c : Cursor) (x : Char) (rest : Text) : c.step x rest = c.beyond [x] rest :=
  eq_of_parts rfl rfl

end Cursor

/-! ## Ends of words and runs -/

namespace Pattern

theorem mem_single_iff (a x : Char) : (CharSet.single a).mem x.toNat = true ↔ x = a := by
  rw [CharSet.single, CharSet.mem, Unicode.inRanges_iff]
  simp only [List.mem_singleton, exists_eq_left]
  constructor
  · intro h
    exact Char.toNat_inj.1 (by omega)
  · rintro rfl
    exact ⟨Nat.le_refl _, Nat.le_refl _⟩

theorem ends_one_cons {s : CharSet} {c : Cursor} {x : Char} {rest : Text}
    (h : c.ahead = x :: rest) :
    (one s).ends c = if s.mem x.toNat then [c.beyond [x] rest] else [] := by
  rw [ends]
  split
  · rename_i y rest' hy
    rw [h] at hy
    cases hy
    rw [Cursor.step_eq_beyond]
  · rename_i hnil
    rw [h] at hnil
    simp at hnil

theorem ends_one_nil {s : CharSet} {c : Cursor} (h : c.ahead = []) : (one s).ends c = [] := by
  rw [ends]
  split
  · rename_i hy
    rw [h] at hy
    simp at hy
  · rfl

/-- One given character, if it is next. -/
theorem ends_single (a : Char) (c : Cursor) :
    (one (.single a)).ends c =
      if [a] <+: c.ahead then [c.beyond [a] (c.ahead.drop 1)] else [] := by
  cases h : c.ahead with
  | nil => rw [ends_one_nil h, if_neg (by simp)]
  | cons x rest =>
    rw [ends_one_cons h]
    by_cases hx : x = a
    · subst hx
      rw [if_pos ((mem_single_iff x x).2 rfl), if_pos (by simp), List.drop_one, List.tail_cons]
    · rw [if_neg (mt (mem_single_iff a x).1 hx), if_neg (by simpa using Ne.symm hx)]

theorem ends_single_beyond (a : Char) (c : Cursor) (m rest : Text) :
    (one (.single a)).ends (c.beyond m rest) =
      if [a] <+: rest then [c.beyond (m ++ [a]) (rest.drop 1)] else [] := by
  have h := ends_single a (c.beyond m rest)
  rw [Cursor.beyond_beyond] at h
  exact h

theorem ends_seq_of_nil {p q : Pattern} {c : Cursor} (h : p.ends c = []) :
    (seq p q).ends c = [] := by
  rw [ends, h]
  rfl

theorem ends_seq_of_singleton {p q : Pattern} {c d : Cursor} (h : p.ends c = [d]) :
    (seq p q).ends c = q.ends d := by
  rw [ends, h]
  rfl

/-- The pattern of a word behind another pattern. -/
def thenWord (p : Pattern) (w : Text) : Pattern := (w.map fun a => one (.single a)).foldl seq p

theorem ends_thenWord_of_nil {p : Pattern} {c : Cursor} (h : p.ends c = []) (w : Text) :
    (p.thenWord w).ends c = [] := by
  induction w generalizing p with
  | nil => exact h
  | cons a w ih => exact ih (ends_seq_of_nil h)

theorem beyond_singleton_beyond {a : Char} {d : Cursor} (h : [a] <+: d.ahead) (w : Text) :
    (if w <+: d.ahead.drop 1 then
        [(d.beyond [a] (d.ahead.drop 1)).beyond w ((d.ahead.drop 1).drop w.length)] else []) =
      if a :: w <+: d.ahead then [d.beyond (a :: w) (d.ahead.drop (w.length + 1))] else [] := by
  obtain ⟨rest, hrest⟩ := h
  rw [← hrest, Cursor.beyond_beyond]
  simp only [List.singleton_append, List.cons_prefix_cons, true_and, List.drop_succ_cons,
    List.drop_zero]

theorem ends_thenWord {p : Pattern} {c d : Cursor} (h : p.ends c = [d]) (w : Text) :
    (p.thenWord w).ends c = if w <+: d.ahead then [d.beyond w (d.ahead.drop w.length)] else [] := by
  induction w generalizing p d with
  | nil =>
    rw [if_pos List.nil_prefix, List.length_nil, List.drop_zero, Cursor.beyond_nil]
    exact h
  | cons a w ih =>
    have hseq := (ends_seq_of_singleton h (q := one (.single a))).trans (ends_single a d)
    by_cases ha : [a] <+: d.ahead
    · rw [if_pos ha] at hseq
      exact (ih hseq).trans (beyond_singleton_beyond ha w)
    · rw [if_neg ha] at hseq
      rw [if_neg]
      · exact ends_thenWord_of_nil hseq w
      · intro hw
        exact ha ((List.prefix_append [a] w).trans hw)

/-- A word that is next in the text. -/
theorem ends_word (a : Char) (w : Text) (c : Cursor) :
    ((one (.single a)).thenWord w).ends c =
      if a :: w <+: c.ahead then [c.beyond (a :: w) (c.ahead.drop (w.length + 1))] else [] := by
  have hone := ends_single a c
  by_cases ha : [a] <+: c.ahead
  · rw [if_pos ha] at hone
    exact (ends_thenWord hone w).trans (beyond_singleton_beyond ha w)
  · rw [if_neg ha] at hone
    rw [if_neg]
    · exact ends_thenWord_of_nil hone w
    · intro hw
      exact ha ((List.prefix_append [a] w).trans hw)

/-- A run that takes all it can get reaches one place behind which the set does not go on, and
before it only places where it does. -/
theorem stepOver_eq_append (s : CharSet) (n : Nat) (c : Cursor) (hn : c.ahead.length ≤ n) :
    ∃ front, stepOver s n c = front ++ [c.beyond (c.ahead.takeWhile fun x => s.mem x.toNat)
        (c.ahead.dropWhile fun x => s.mem x.toNat)] ∧
      ∀ d ∈ front, ∃ x rest, d.ahead = x :: rest ∧ s.mem x.toNat = true := by
  induction n generalizing c with
  | zero =>
    have hnil := List.length_eq_zero_iff.1 (Nat.le_zero.1 hn)
    refine ⟨[], ?_, by simp⟩
    have := c.beyond_nil
    rw [hnil] at this ⊢
    simp only [stepOver, List.takeWhile_nil, List.dropWhile_nil, this, List.nil_append]
  | succ n ih =>
    rw [stepOver]
    split
    · rename_i x rest hc
      rw [hc, List.length_cons] at hn
      by_cases hx : s.mem x.toNat = true
      · obtain ⟨front, hfront, hmem⟩ := ih (c.step x rest) (by simp only [Cursor.step]; omega)
        refine ⟨c :: front, ?_, ?_⟩
        · rw [if_pos hx, hfront, hc,
            List.takeWhile_cons_of_pos (p := fun x : Char => s.mem x.toNat) hx,
            List.dropWhile_cons_of_pos (p := fun x : Char => s.mem x.toNat) hx,
            Cursor.step_eq_beyond, Cursor.beyond_beyond]
          rfl
        · intro d hd
          rcases List.mem_cons.1 hd with rfl | hd
          · exact ⟨x, rest, hc, hx⟩
          · exact hmem d hd
      · refine ⟨[], ?_, by simp⟩
        rw [if_neg hx, hc, List.takeWhile_cons_of_neg (p := fun x : Char => s.mem x.toNat) hx,
          List.dropWhile_cons_of_neg (p := fun x : Char => s.mem x.toNat) hx, ← hc,
          Cursor.beyond_nil, List.nil_append]
    · rename_i hc
      refine ⟨[], ?_, by simp⟩
      have := c.beyond_nil
      rw [hc] at this ⊢
      simp only [List.takeWhile_nil, List.dropWhile_nil, this, List.nil_append]

theorem chain_eq_flatMap {step : Cursor → List Cursor} {cs : List Cursor}
    (h : (cs.flatMap step).length ≤ 1) : chain step cs = cs.flatMap step := by
  unfold chain
  split
  · rfl
  · simp
  · generalize cs.flatMap step = ds at h ⊢
    cases ds with
    | nil => rfl
    | cons d ds =>
      rw [List.length_cons] at h
      rw [List.length_eq_zero_iff.1 (by omega : ds.length = 0)]
      simp [distinct, distinctFrom]

/-- A run of a set and behind it a character outside of the set. -/
theorem chain_run_single {s : CharSet} {a : Char} (ha : s.mem a.toNat = false) (c : Cursor) :
    chain (one (.single a)).ends ((run ⟨0, none, true⟩ s).ends c) =
      (one (.single a)).ends (c.beyond (c.ahead.takeWhile fun x => s.mem x.toNat)
        (c.ahead.dropWhile fun x => s.mem x.toNat)) := by
  obtain ⟨front, hfront, hmem⟩ := stepOver_eq_append s c.ahead.length c (Nat.le_refl _)
  have hruns : (run ⟨0, none, true⟩ s).ends c = (stepOver s c.ahead.length c).reverse := rfl
  -- the character is outside of the set, so none of the shorter runs is followed by it
  have hnone : front.reverse.flatMap (one (.single a)).ends = [] := by
    rw [List.flatMap_eq_nil_iff]
    intro d hd
    obtain ⟨x, rest, hd, hx⟩ := hmem d (List.mem_reverse.1 hd)
    rw [ends_one_cons hd, if_neg]
    intro hxa
    rw [(mem_single_iff a x).1 hxa, ha] at hx
    simp at hx
  have hflat : ((run ⟨0, none, true⟩ s).ends c).flatMap (one (.single a)).ends =
      (one (.single a)).ends (c.beyond (c.ahead.takeWhile fun x => s.mem x.toNat)
        (c.ahead.dropWhile fun x => s.mem x.toNat)) := by
    rw [hruns, hfront, List.reverse_append, List.reverse_singleton, List.singleton_append,
      List.flatMap_cons, hnone, List.append_nil]
  rw [chain_eq_flatMap, hflat]
  rw [hflat, ends_single]
  split <;> simp

end Pattern

end PageShell
