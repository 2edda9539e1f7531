import Mathlib.Data.List.TakeWhile
import PageShell.Proofs.PatternEnds
import PageShell.Proofs.Region

/-!
# The anchors of the default settings

The default pattern describes the word `return`, blanks and an opening bracket. Two such parts of
a text never overlap, so the search for matches finds all of them.

Results:

* `ends_default`: at each place the default pattern has one match at most, the longest one.
* `spans_default`: the anchors of a text are all parts of it that the pattern describes.
* `mem_returnSpans_iff`, `returnSpans_eq_nil_iff`: which parts these are, and when there are none.
* `returnSpans_append`: behind a bracket the search begins anew.
-/

namespace PageShell

/-! ## The parts that the default pattern describes -/

/-- The word in front of the bracket. -/
def returnWord : Text := ['r', 'e', 't', 'u', 'r', 'n']

/-- A text that is the word, blanks and an opening bracket. -/
def IsReturn (m : Text) : Prop :=
  ∃ blanks : Text, (∀ x ∈ blanks, Unicode.isBlank x = true) ∧ m = returnWord ++ blanks ++ ['(']

/-- The part of that form that a text begins with. -/
def returnAt? (t : Text) : Option Text :=
  let m := returnWord ++ (t.drop returnWord.length).takeWhile Unicode.isBlank ++ ['(']
  if m.isPrefixOf t then some m else none

theorem takeWhile_isBlank {blanks : Text} (h : ∀ x ∈ blanks, Unicode.isBlank x = true)
    (rest : Text) : (blanks ++ '(' :: rest).takeWhile Unicode.isBlank = blanks := by
  rw [List.takeWhile_append_of_pos h, List.takeWhile_cons_of_neg (by decide), List.append_nil]

theorem returnAt?_eq_some_iff {t m : Text} : returnAt? t = some m ↔ IsReturn m ∧ m <+: t := by
  rw [returnAt?]
  constructor
  · intro h
    split at h
    · rename_i hprefix
      cases h
      refine ⟨⟨_, fun x hx => ?_, rfl⟩, List.isPrefixOf_iff_prefix.1 hprefix⟩
      exact List.mem_takeWhile_imp hx
    · simp at h
  · rintro ⟨⟨blanks, hblanks, rfl⟩, rest, rfl⟩
    have hdrop : ((returnWord ++ blanks ++ ['('] ++ rest).drop returnWord.length).takeWhile
        Unicode.isBlank = blanks := by
      rw [List.append_assoc, List.append_assoc, List.drop_left, List.singleton_append,
        takeWhile_isBlank hblanks]
    rw [hdrop, if_pos]
    exact List.isPrefixOf_iff_prefix.2 (List.prefix_append _ rest)

theorem returnAt?_eq_none_iff {t : Text} : returnAt? t = none ↔ ∀ m, IsReturn m → ¬m <+: t := by
  rw [Option.eq_none_iff_forall_ne_some]
  constructor
  · intro h m hm hprefix
    exact h m (returnAt?_eq_some_iff.2 ⟨hm, hprefix⟩)
  · intro h m hm
    obtain ⟨hreturn, hprefix⟩ := returnAt?_eq_some_iff.1 hm
    exact h m hreturn hprefix

/-- Behind the word, what the blanks lead to decides. -/
theorem returnAt?_word_append (v : Text) :
    returnAt? (returnWord ++ v) =
      if ['('] <+: v.dropWhile Unicode.isBlank then
        some (returnWord ++ v.takeWhile Unicode.isBlank ++ ['(']) else none := by
  have hprefix : returnWord ++ v.takeWhile Unicode.isBlank ++ ['('] <+: returnWord ++ v ↔
      ['('] <+: v.dropWhile Unicode.isBlank := by
    generalize hb : v.takeWhile Unicode.isBlank = blanks
    generalize hr : v.dropWhile Unicode.isBlank = rest
    have hv : blanks ++ rest = v := by rw [← hb, ← hr, List.takeWhile_append_dropWhile]
    rw [← hv, List.append_assoc, List.prefix_append_right_inj, List.prefix_append_right_inj]
  rw [returnAt?, List.drop_left]
  simp only [List.isPrefixOf_iff_prefix, hprefix]

theorem IsReturn.ne_nil {m : Text} (h : IsReturn m) : m ≠ [] := by
  obtain ⟨blanks, -, rfl⟩ := h
  simp

/-- Only at the end of such a part is there a bracket. -/
theorem IsReturn.not_mem_bracket {u v : Text} (h : IsReturn (u ++ v)) (hv : v ≠ []) : '(' ∉ u := by
  obtain ⟨blanks, hblanks, heq⟩ := h
  obtain ⟨v', x, rfl⟩ := (List.eq_nil_or_concat v).resolve_left hv
  rw [List.concat_eq_append, ← List.append_assoc, List.append_singleton_inj] at heq
  intro hmem
  have : '(' ∈ returnWord ++ blanks := heq.1 ▸ List.mem_append_left v' hmem
  rcases List.mem_append.1 this with hword | hblank
  · simp [returnWord] at hword
  · exact absurd (hblanks _ hblank) (by decide)

/-! ## Matches of the default pattern -/

/-- **The default pattern matches the part of that form, if there is one.** -/
theorem ends_default (c : Cursor) :
    Locator.default.pattern.ends c =
      ((returnAt? c.ahead).map fun m => c.beyond m (c.ahead.drop m.length)).toList := by
  have hpattern : Locator.default.pattern =
      .seq (.seq ((Pattern.one (.single 'r')).thenWord ['e', 't', 'u', 'r', 'n'])
        (.run ⟨0, none, true⟩ .space)) (.one (.single '(')) := rfl
  have hword : ((Pattern.one (.single 'r')).thenWord ['e', 't', 'u', 'r', 'n']).ends c =
      if returnWord <+: c.ahead then [c.beyond returnWord (c.ahead.drop returnWord.length)]
      else [] :=
    Pattern.ends_word 'r' ['e', 't', 'u', 'r', 'n'] c
  rw [hpattern]
  by_cases hw : returnWord <+: c.ahead
  · rw [if_pos hw] at hword
    obtain ⟨v, hv⟩ := hw
    rw [← hv, List.drop_left] at hword
    have hrun : Pattern.chain (Pattern.one (.single '(')).ends
        ((Pattern.run ⟨0, none, true⟩ .space).ends (c.beyond returnWord v)) =
        if ['('] <+: v.dropWhile Unicode.isBlank then
          [c.beyond (returnWord ++ v.takeWhile Unicode.isBlank ++ ['('])
            ((v.dropWhile Unicode.isBlank).drop 1)] else [] := by
      rw [Pattern.chain_run_single (by decide), Cursor.beyond_beyond]
      exact Pattern.ends_single_beyond '(' _ _ _
    rw [Pattern.ends, Pattern.ends_seq_of_singleton hword, hrun, ← hv, returnAt?_word_append]
    by_cases hbracket : ['('] <+: v.dropWhile Unicode.isBlank
    · rw [if_pos hbracket, if_pos hbracket]
      obtain ⟨rest, hrest⟩ := hbracket
      have hsplit : returnWord ++ v =
          (returnWord ++ v.takeWhile Unicode.isBlank ++ ['(']) ++ rest := by
        rw [List.append_assoc, List.append_assoc, hrest, List.takeWhile_append_dropWhile]
      rw [Option.map_some, hsplit, List.drop_left, ← hrest]
      rfl
    · rw [if_neg hbracket, if_neg hbracket]
      rfl
  · -- no part of that form without the word
    have hnone : returnAt? c.ahead = none := by
      rw [returnAt?_eq_none_iff]
      rintro m ⟨blanks, -, rfl⟩ hm
      rw [List.append_assoc] at hm
      exact hw ((List.prefix_append returnWord _).trans hm)
    rw [if_neg hw] at hword
    rw [hnone, Pattern.ends_seq_of_nil (Pattern.ends_seq_of_nil hword)]
    rfl

/-- The parts of that form in a text that begins at an offset, each by the offsets of its start and
of its end. -/
def returnSpans : Nat → Text → List (Nat × Nat)
  | _, [] => []
  | n, x :: rest =>
    ((returnAt? (x :: rest)).map fun m => (n, n + Text.utf8Length m)).toList ++
      returnSpans (n + x.utf8Size) rest

theorem returnSpans_cons_of_none {n : Nat} {x : Char} {t : Text} (h : returnAt? (x :: t) = none) :
    returnSpans n (x :: t) = returnSpans (n + x.utf8Size) t := by
  rw [returnSpans, h]
  rfl

/-- A text that does not begin with the word's first letter does not begin with such a part. -/
theorem returnAt?_cons_of_ne {x : Char} (h : x ≠ 'r') (t : Text) : returnAt? (x :: t) = none := by
  rw [returnAt?_eq_none_iff]
  rintro m ⟨blanks, -, rfl⟩ hm
  rw [List.append_assoc, returnWord, List.cons_append, List.cons_prefix_cons] at hm
  exact h hm.1.symm

/-- The second `r` of the word does not begin another one. -/
theorem returnAt?_r_cons_of_ne {x : Char} (h : x ≠ 'e') (t : Text) :
    returnAt? ('r' :: x :: t) = none := by
  rw [returnAt?_eq_none_iff]
  rintro m ⟨blanks, -, rfl⟩ hm
  rw [List.append_assoc, returnWord, List.cons_append, List.cons_append, List.cons_prefix_cons,
    List.cons_prefix_cons] at hm
  exact h hm.2.1.symm

theorem returnSpans_blanks {blanks : Text} (h : ∀ x ∈ blanks, Unicode.isBlank x = true) (n : Nat)
    (rest : Text) :
    returnSpans n (blanks ++ rest) = returnSpans (n + Text.utf8Length blanks) rest := by
  induction blanks generalizing n with
  | nil => rfl
  | cons x blanks ih =>
    have hx : x ≠ 'r' := by
      rintro rfl
      exact absurd (h 'r' List.mem_cons_self) (by decide)
    rw [List.cons_append, returnSpans_cons_of_none (returnAt?_cons_of_ne hx _),
      ih (fun y hy => h y (List.mem_cons_of_mem x hy)), Text.utf8Length_cons, Nat.add_assoc]

/-- Such a part has no other one begin inside of it. -/
theorem returnSpans_append_of_isReturn {m : Text} (hm : IsReturn m) (n : Nat) (rest : Text) :
    returnSpans n (m ++ rest) =
      (n, n + Text.utf8Length m) :: returnSpans (n + Text.utf8Length m) rest := by
  have hat := returnAt?_eq_some_iff.2 ⟨hm, List.prefix_append m rest⟩
  obtain ⟨blanks, hblanks, rfl⟩ := hm
  have hlen : Text.utf8Length (returnWord ++ blanks ++ ['(']) = 7 + Text.utf8Length blanks := by
    rw [Text.utf8Length_append, Text.utf8Length_append, Nat.add_right_comm]
    rfl
  have happ : returnWord ++ blanks ++ ['('] ++ rest =
      'r' :: 'e' :: 't' :: 'u' :: 'r' :: 'n' :: (blanks ++ '(' :: rest) := by
    simp [returnWord]
  rw [happ] at hat ⊢
  rw [returnSpans, hat, returnSpans_cons_of_none (returnAt?_cons_of_ne (by decide) _),
    returnSpans_cons_of_none (returnAt?_cons_of_ne (by decide) _),
    returnSpans_cons_of_none (returnAt?_cons_of_ne (by decide) _),
    returnSpans_cons_of_none (returnAt?_r_cons_of_ne (by decide) _),
    returnSpans_cons_of_none (returnAt?_cons_of_ne (by decide) _), returnSpans_blanks hblanks,
    returnSpans_cons_of_none (returnAt?_cons_of_ne (by decide) _), hlen]
  have hstop : n + 1 + 1 + 1 + 1 + 1 + 1 + Text.utf8Length blanks + 1 =
      n + (7 + Text.utf8Length blanks) := by omega
  rw [← hstop]
  simp only [Option.map_some, Option.toList_some, List.singleton_append, hlen, ← hstop]
  rfl

theorem IsReturn.utf8Length_pos {m : Text} (h : IsReturn m) : 0 < Text.utf8Length m :=
  Nat.pos_of_ne_zero fun h0 => h.ne_nil (Text.utf8Length_eq_zero h0)

/-! ## The anchors of a text -/

namespace Locator

/-- A part of that form is found where it starts. -/
theorem search_default_of_isReturn {c : Cursor} {m rest : Text} (hm : IsReturn m)
    (hc : c.ahead = m ++ rest) : default.pattern.search c = some ⟨c, c.beyond m rest⟩ := by
  have hat := returnAt?_eq_some_iff.2 ⟨hm, List.prefix_append m rest⟩
  have hends := ends_default c
  rw [hc, hat, Option.map_some, List.drop_left, Option.toList_some] at hends
  exact Pattern.search_of_ends_cons hends

theorem ends_default_of_none {c : Cursor} (h : returnAt? c.ahead = none) :
    default.pattern.ends c = [] := by
  rw [ends_default, h]
  rfl

theorem search_default_of_none {c : Cursor} {x : Char} {rest : Text} (hc : c.ahead = x :: rest)
    (h : returnAt? (x :: rest) = none) :
    default.pattern.search c = default.pattern.search (c.step x rest) :=
  Pattern.search_step (ends_default_of_none (hc ▸ h)) hc

theorem search_default_of_nil {c : Cursor} (hc : c.ahead = []) :
    default.pattern.search c = none :=
  Pattern.search_nil (ends_default_of_none (by rw [hc]; rfl)) hc

/-- Such a match is never empty, so the search has no reason to pass one over. -/
theorem searchPast_default (c : Cursor) :
    default.pattern.searchPast c = default.pattern.search c := by
  rw [Pattern.searchPast]
  split
  · rename_i h
    exact h.symm
  · rename_i m h
    have hstop := Pattern.search_stop h
    rw [ends_default] at hstop
    cases hat : returnAt? m.start.ahead with
    | none => simp [hat] at hstop
    | some k =>
      obtain ⟨hk, -⟩ := returnAt?_eq_some_iff.1 hat
      have hpos := hk.utf8Length_pos
      rw [hat, Option.map_some, Option.toList_some, List.head?_cons, Option.some.injEq] at hstop
      have hne : m.isEmpty = false := by
        rw [Pattern.Match.isEmpty, ← hstop, Cursor.offset_beyond, beq_eq_false_iff_ne]
        omega
      rw [hne, Bool.false_and, if_neg (by simp), h]

theorem isAnchor_default {c : Cursor} {m : Text} (hm : IsReturn m) (rest : Text) :
    default.isAnchor ⟨c, c.beyond m rest⟩ = true := by
  have hpos := hm.utf8Length_pos
  obtain ⟨blanks, -, rfl⟩ := hm
  rw [isAnchor, Bool.and_eq_true]
  constructor
  · simp only [Pattern.Match.isEmpty, Cursor.offset_beyond, Bool.not_eq_true', beq_eq_false_iff_ne]
    omega
  · simp [Cursor.beyond, default]

theorem matchesPast_default (c : Cursor) :
    ((default.pattern.matchesPast c).filter default.isAnchor).map
        (fun m => (m.start.offset, m.stop.offset)) = returnSpans c.offset c.ahead := by
  induction hn : c.ahead.length using Nat.strong_induction_on generalizing c with
  | _ n ih =>
    cases hat : returnAt? c.ahead with
    | some m =>
      obtain ⟨hm, rest, hrest⟩ := returnAt?_eq_some_iff.1 hat
      have hsearch := search_default_of_isReturn hm hrest.symm
      rw [← searchPast_default] at hsearch
      have hlt : rest.length < n := by
        have := List.length_pos_iff.2 hm.ne_nil
        rw [← hn, ← hrest, List.length_append]
        omega
      rw [Pattern.matchesPast_of_some hsearch, List.filter_cons_of_pos (isAnchor_default hm rest),
        List.map_cons, ih rest.length hlt (c.beyond m rest) rfl, ← hrest,
        returnSpans_append_of_isReturn hm]
      rfl
    | none =>
      cases hc : c.ahead with
      | nil =>
        have hsearch := search_default_of_nil hc
        rw [← searchPast_default] at hsearch
        rw [Pattern.matchesPast_of_none hsearch]
        rfl
      | cons x rest =>
        rw [hc] at hat hn
        -- no match begins here, so the search from here and from the next place is the same
        have hsame : default.pattern.matchesPast c =
            default.pattern.matchesPast (c.step x rest) := by
          have hsearch := search_default_of_none hc hat
          rw [← searchPast_default, ← searchPast_default] at hsearch
          cases hpast : default.pattern.searchPast (c.step x rest) with
          | none =>
            rw [Pattern.matchesPast_of_none hpast,
              Pattern.matchesPast_of_none (hsearch.trans hpast)]
          | some k =>
            rw [Pattern.matchesPast_of_some hpast,
              Pattern.matchesPast_of_some (hsearch.trans hpast)]
        have hlt : rest.length < n := by
          rw [← hn, List.length_cons]
          omega
        rw [hsame, ih rest.length hlt (c.step x rest) rfl, returnSpans_cons_of_none hat]
        rfl

/-- **The anchors of the default settings are all parts of that form.** -/
theorem spans_default (t : Text) : default.spans t = returnSpans 0 t := by
  have hall : default.pattern.allMatches t = default.pattern.matchesPast (.start t) := by
    rw [Pattern.allMatches]
    split
    · rename_i h
      rw [← searchPast_default] at h
      exact (Pattern.matchesPast_of_none h).symm
    · rename_i m h
      rw [← searchPast_default] at h
      exact (Pattern.matchesPast_of_some h).symm
  rw [spans, anchors, hall, matchesPast_default]
  rfl

end Locator

/-! ## Which parts of a text these are -/

theorem mem_returnSpans_iff {n : Nat} {t : Text} {i j : Nat} :
    (i, j) ∈ returnSpans n t ↔
      ∃ u m v, u ++ m ++ v = t ∧ IsReturn m ∧ n + Text.utf8Length u = i ∧
        i + Text.utf8Length m = j := by
  induction t generalizing n with
  | nil =>
    rw [returnSpans]
    constructor
    · simp
    · rintro ⟨u, m, v, h, hm, -⟩
      rw [List.append_assoc, List.append_eq_nil_iff, List.append_eq_nil_iff] at h
      exact absurd h.2.1 hm.ne_nil
  | cons x t ih =>
    rw [returnSpans, List.mem_append, ih]
    constructor
    · rintro (h | ⟨u, m, v, rfl, hm, rfl, rfl⟩)
      · obtain ⟨m, hat, heq⟩ := Option.map_eq_some_iff.1 (Option.mem_toList.1 h)
        cases heq
        obtain ⟨hm, v, hv⟩ := returnAt?_eq_some_iff.1 hat
        exact ⟨[], m, v, hv, hm, rfl, rfl⟩
      · exact ⟨x :: u, m, v, rfl, hm, by rw [Text.utf8Length_cons]; omega, rfl⟩
    · rintro ⟨u, m, v, h, hm, rfl, rfl⟩
      cases u with
      | nil =>
        left
        rw [List.nil_append] at h
        have hat := returnAt?_eq_some_iff.2 ⟨hm, v, h⟩
        rw [hat]
        simp
      | cons y u =>
        right
        cases h
        exact ⟨u, m, v, rfl, hm, by rw [Text.utf8Length_cons]; omega, rfl⟩

theorem returnSpans_eq_nil_iff {n : Nat} {t : Text} :
    returnSpans n t = [] ↔ ∀ m, IsReturn m → ¬m <:+: t := by
  constructor
  · rintro h m hm ⟨u, v, huv⟩
    have hmem := (mem_returnSpans_iff (n := n)).2 ⟨u, m, v, huv, hm, rfl, rfl⟩
    rw [h] at hmem
    simp at hmem
  · intro h
    rw [List.eq_nil_iff_forall_not_mem]
    rintro ⟨i, j⟩ hmem
    obtain ⟨u, m, v, huv, hm, -⟩ := mem_returnSpans_iff.1 hmem
    exact h m hm ⟨u, v, huv⟩

/-- A part of that form that begins before a bracket ends with it or before it. -/
theorem returnAt?_append {u : Text} (hlast : u.getLast? = some '(') (v : Text) :
    returnAt? (u ++ v) = returnAt? u := by
  obtain ⟨u, rfl⟩ := List.getLast?_eq_some_iff.1 hlast
  apply Option.ext
  intro m
  rw [returnAt?_eq_some_iff, returnAt?_eq_some_iff, and_congr_right_iff]
  intro hm
  constructor
  · intro h
    rcases List.prefix_or_prefix_of_prefix h (List.prefix_append (u ++ ['(']) v) with h | ⟨w, hw⟩
    · exact h
    · subst hw
      cases w with
      | nil =>
        rw [List.append_nil]
      | cons y w => exact absurd (by simp) (hm.not_mem_bracket (List.cons_ne_nil y w))
  · exact fun h => h.trans (List.prefix_append _ v)

/-- **Behind a bracket the search begins anew.** -/
theorem returnSpans_append {u : Text} (hlast : u.getLast? = some '(') (n : Nat) (v : Text) :
    returnSpans n (u ++ v) = returnSpans n u ++ returnSpans (n + Text.utf8Length u) v := by
  induction u generalizing n with
  | nil => simp at hlast
  | cons x u ih =>
    have hat := returnAt?_append hlast v
    rw [List.cons_append] at hat
    rw [List.cons_append, returnSpans, hat, returnSpans, List.append_assoc, Text.utf8Length_cons,
      ← Nat.add_assoc]
    cases u with
    | nil => rfl
    | cons y u =>
      rw [List.getLast?_cons_cons] at hlast
      rw [ih hlast]

end PageShell
