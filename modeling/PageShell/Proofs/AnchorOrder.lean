import PageShell.Proofs.ReturnAnchor

/-!
# The order of anchors

The anchors of a text are found from its start on and do not overlap, whatever the pattern is, so
the last one is the one that starts last. For the default settings nothing is missed: a part of a
text that has the form of an anchor overlaps no other one, and each is found.

Results:

* `Pattern.pairwise_allMatches`, `Locator.pairwise_spans`: each match, and each anchor, ends before
  the next one begins.
* `Locator.le_of_getLast?_spans`: the last anchor is the one that starts last.
* `Locator.mem_spans_default_iff`: the anchors of the default settings, by their offsets.
* `Locator.not_isInfix_of_locate`: a region has no anchor of the default settings in it, and neither
  has what is behind it.
* `Locator.anchors_complete`: the default settings find all anchors.
-/

namespace PageShell

/-! ## Order for every pattern -/

namespace Pattern

/-- Each match ends before the next one begins. -/
theorem pairwise_matchesPast (p : Pattern) (c : Cursor) :
    (p.matchesPast c).Pairwise fun m k => m.stop.offset ≤ k.start.offset := by
  fun_induction matchesPast p c with
  | case1 => exact .nil
  | case2 c m h ih =>
    exact List.pairwise_cons.2 ⟨fun k hk => (before_of_mem_matchesPast k hk).1.offset_le, ih⟩

theorem pairwise_allMatches (p : Pattern) (t : Text) :
    (p.allMatches t).Pairwise fun m k => m.stop.offset ≤ k.start.offset := by
  unfold allMatches
  split
  · exact .nil
  · exact List.pairwise_cons.2 ⟨fun k hk => (before_of_mem_matchesPast k hk).1.offset_le,
      pairwise_matchesPast p _⟩

end Pattern

namespace Locator

variable {l : Locator} {t : Text} {a s : Nat}

/-- **Each anchor ends before the next one begins.** -/
theorem pairwise_spans (l : Locator) (t : Text) :
    (l.spans t).Pairwise fun p q => p.2 ≤ q.1 := by
  rw [spans, List.pairwise_map]
  exact (l.pattern.pairwise_allMatches t).filter _

/-- Anchors are not empty, so they are listed by their starts, and by their ends. -/
theorem pairwise_lt_spans (l : Locator) (t : Text) :
    (l.spans t).Pairwise fun p q => p.1 < q.1 ∧ p.2 < q.2 := by
  refine (l.pairwise_spans t).imp_of_mem fun {p q} hp hq hle => ?_
  have hp' := (cut?_of_mem_spans hp).1
  have hq' := (cut?_of_mem_spans hq).1
  omega

/-- **The last anchor is the one that starts last.** -/
theorem le_of_getLast?_spans (hlast : (l.spans t).getLast? = some (a, s)) :
    ∀ p ∈ l.spans t, p.1 ≤ a := by
  obtain ⟨front, hspans⟩ := List.getLast?_eq_some_iff.1 hlast
  have hpairwise := l.pairwise_lt_spans t
  rw [hspans, List.pairwise_append] at hpairwise
  intro p hp
  rw [hspans] at hp
  rcases List.mem_append.1 hp with hp | hp
  · exact Nat.le_of_lt (hpairwise.2.2 p hp _ (List.mem_singleton_self _)).1
  · rw [List.mem_singleton.1 hp]

/-- An anchor that starts last is the last one. -/
theorem getLast?_spans_of_le (hmem : (a, s) ∈ l.spans t) (hle : ∀ p ∈ l.spans t, p.1 ≤ a) :
    (l.spans t).getLast? = some (a, s) := by
  obtain ⟨front, behind, hspans⟩ := List.append_of_mem hmem
  have hpairwise := l.pairwise_lt_spans t
  rw [hspans] at hle hpairwise ⊢
  cases behind with
  | nil => exact List.getLast?_concat
  | cons p behind =>
    have hlt := (List.rel_of_pairwise_cons (List.pairwise_append.1 hpairwise).2.1
      List.mem_cons_self).1
    have := hle p (by simp)
    omega

/-! ## The default settings -/

/-- A text has the word, blanks and an opening bracket between two offsets. -/
def IsReturnAt (t : Text) (i j : Nat) : Prop := ∃ m, Text.slice? t i j = some m ∧ IsReturn m

/-- **The anchors of the default settings** are all places of that form. -/
theorem mem_spans_default_iff {i j : Nat} : (i, j) ∈ default.spans t ↔ IsReturnAt t i j := by
  rw [spans_default, mem_returnSpans_iff]
  constructor
  · rintro ⟨u, m, v, rfl, hm, rfl, rfl⟩
    refine ⟨m, Text.slice?_eq_some_iff.2 ⟨u, v, rfl, (Nat.zero_add _).symm, ?_⟩, hm⟩
    rw [Text.utf8Length_append, Nat.zero_add]
  · rintro ⟨m, hslice, hm⟩
    obtain ⟨u, v, rfl, rfl, rfl⟩ := Text.slice?_eq_some_iff.1 hslice
    exact ⟨u, m, v, rfl, hm, Nat.zero_add _, (Text.utf8Length_append u m).symm⟩

/-- The last anchor is in front of its region, so no other one is behind it. -/
theorem not_isInfix_of_locate {r : Region} (hr : default.locate t = .ok r) (m : Text)
    (hm : IsReturn m) : ¬m <:+: r.inner ++ r.tail := by
  obtain ⟨hlast, htext, -, -⟩ := pieces_of_locate hr
  rintro ⟨u, v, huv⟩
  have hslice : Text.slice? t (Text.utf8Length (r.head ++ u)) (Text.utf8Length (r.head ++ u ++ m)) =
      some m := by
    rw [← htext, Region.text, List.append_assoc, ← huv]
    simpa using Text.slice?_append (r.head ++ u) m v
  have hle := le_of_getLast?_spans hlast _ (mem_spans_default_iff.2 ⟨m, hslice, hm⟩)
  have hlt := (head_of_locate hr).1
  rw [Text.utf8Length_append, ← Region.start] at hle
  omega

/-- **The default settings find all anchors.** The anchors of a text are all places where it has the
word `return`, any number of blanks and an opening bracket; they are listed once, by their starts,
and none overlaps another. The one that starts last is the one that is used, whether it is closed or
not, and the region behind it has no other one in it. -/
theorem anchors_complete (t : Text) :
    AnchorSettings.default.locator? = some default ∧
    (∀ i j, (i, j) ∈ default.spans t ↔ IsReturnAt t i j) ∧
    (default.spans t).Pairwise (fun p q => p.1 < q.1 ∧ p.2 < q.2 ∧ p.2 ≤ q.1) ∧
    (default.locate t = .error .noAnchor ↔ ∀ i j, ¬IsReturnAt t i j) ∧
    (∀ a s, IsReturnAt t a s → (∀ i j, IsReturnAt t i j → i ≤ a) →
      (∃ r, default.locate t = .ok r ∧ r.anchorStart = a ∧ r.start = s) ∨
        default.locate t = .error (.unbalanced a)) ∧
    ∀ r, default.locate t = .ok r →
      IsReturnAt t r.anchorStart r.start ∧ (∀ i j, IsReturnAt t i j → i ≤ r.anchorStart) ∧
        ∀ m, IsReturn m → ¬m <:+: r.inner := by
  refine ⟨locator?_default, fun i j => mem_spans_default_iff, ?_, ?_, ?_, ?_⟩
  · exact ((default.pairwise_lt_spans t).and (default.pairwise_spans t)).imp
      fun h => ⟨h.1.1, h.1.2, h.2⟩
  · rw [locate_eq_noAnchor_iff, List.eq_nil_iff_forall_not_mem, Prod.forall]
    simp only [mem_spans_default_iff]
  · intro a s hmem hle
    have hlast := getLast?_spans_of_le (mem_spans_default_iff.2 hmem)
      fun p hp => hle p.1 p.2 (mem_spans_default_iff.1 hp)
    rcases locate_cases hlast with ⟨r, hr⟩ | hunbalanced
    · exact .inl ⟨r, hr, offsets_of_locate hlast hr⟩
    · exact .inr hunbalanced
  · intro r hr
    have hlast := (pieces_of_locate hr).1
    refine ⟨mem_spans_default_iff.1 (List.mem_of_getLast? hlast), ?_, ?_⟩
    · intro i j hij
      exact le_of_getLast?_spans hlast _ (mem_spans_default_iff.2 hij)
    · intro m hm hinner
      exact not_isInfix_of_locate hr m hm (hinner.trans (List.prefix_append _ r.tail).isInfix)

end Locator

end PageShell
