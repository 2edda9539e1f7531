import PageShell.Proofs.AnchorOrder

/-!
# Searching again behind each match

The matches of a text are found in rounds. A round searches from the end of the match before it; if
that gives an empty match right there, it searches once more behind the next character. On byte
offsets such rounds could go on for ever, or begin inside of a character. They do neither, so the
anchors are well formed for every pattern.

Results:

* `Pattern.searchesFrom?_eq`: the rounds end, after one more than there are matches.
* `Pattern.length_allMatches_le`: there is at most one match more than there are characters.
* `Pattern.exists_mem_allMatches`: the matches leave no place out where the pattern has one.
* `Locator.spans_eq_filter`: the anchors are the matches whose last character is the delimiter.
* `Locator.anchors_wellFormed`: what the list of anchors looks like, and which one is used.
-/

namespace PageShell

/-! ## Places by their offsets -/

namespace Cursor

/-- The place at a byte offset, unless the offset is inside of a character or beyond the text. -/
def at? (t : Text) (i : Nat) : Option Cursor :=
  (Text.cut? t i).map fun parts => { behind := parts.1.reverse, ahead := parts.2 }

theorem at?_offset (c : Cursor) : at? c.text c.offset = some c := by
  rw [at?, c.cut?_text, Option.map_some]
  exact congrArg some (eq_of_parts (List.reverse_reverse c.behind) rfl)

/-- Places of one text are in the order of their offsets. -/
theorem before_of_offset_le {c d : Cursor} (htext : c.text = d.text) (hle : c.offset ≤ d.offset) :
    c.Before d := by
  rcases List.append_eq_append_iff.1 htext with ⟨m, hbehind, hahead⟩ | ⟨m, hbehind, hahead⟩
  · exact ⟨m, hahead, by rw [← List.reverse_inj, hbehind]; simp⟩
  · -- the part from `d` to `c` is empty
    have hlen := congrArg Text.utf8Length hbehind
    rw [Text.utf8Length_append, Text.utf8Length_reverse, Text.utf8Length_reverse, ← c.offset_eq,
      ← d.offset_eq] at hlen
    obtain rfl := Text.utf8Length_eq_zero (by omega : Text.utf8Length m = 0)
    rw [List.append_nil, List.reverse_inj] at hbehind
    exact ⟨[], hahead.symm, hbehind.symm⟩

/-- A later place is behind the next character. -/
theorem Before.eq_or_step {c d : Cursor} (h : c.Before d) :
    c = d ∨ ∃ x rest, c.ahead = x :: rest ∧ (c.step x rest).Before d := by
  obtain ⟨between, hahead, hbehind⟩ := h
  cases between with
  | nil => exact .inl (eq_of_parts hbehind.symm hahead)
  | cons x between =>
    refine .inr ⟨x, between ++ d.ahead, hahead, between, rfl, ?_⟩
    rw [hbehind, List.reverse_cons, List.append_assoc]
    rfl

/-- The part of a text between two places. -/
theorem Before.exists_slice? {c d : Cursor} (h : c.Before d) :
    ∃ m, Text.slice? d.text c.offset d.offset = some m ∧ d.behind = m.reverse ++ c.behind := by
  obtain ⟨m, -, hbehind⟩ := h
  refine ⟨m, Text.slice?_eq_some_iff.2 ⟨c.passed, d.ahead, ?_, ?_, ?_⟩, hbehind⟩
  · rw [text, hbehind, passed, List.reverse_append, List.reverse_reverse]
  · rw [passed, Text.utf8Length_reverse, c.offset_eq]
  · rw [passed, d.offset_eq, hbehind]
    simp only [Text.utf8Length_append, Text.utf8Length_reverse, Nat.add_comm]

end Cursor

namespace Pattern

variable {p : Pattern} {c d : Cursor}

/-! ## The rounds of searching -/

/-- A match as the byte offsets of its start and its end. -/
def Match.span (m : Match) : Nat × Nat := (m.start.offset, m.stop.offset)

/-- The first match at or behind a byte offset, if there is one. The outer `none` stands for an
offset where the text has no place. -/
def searchFrom? (p : Pattern) (t : Text) (i : Nat) : Option (Option (Nat × Nat)) :=
  (Cursor.at? t i).map fun c => (p.search c).map Match.span

/-- The same from behind the character that is next at a byte offset. -/
def searchBehind? (p : Pattern) (t : Text) (i : Nat) : Option (Option (Nat × Nat)) :=
  match Text.cut? t i with
  | none => none
  | some (_, []) => some none
  | some (_, x :: _) => p.searchFrom? t (i + x.utf8Size)

/-- A round of searching from a byte offset, when the match before it has ended at `last`. -/
def searchRound? (p : Pattern) (t : Text) (last : Option Nat) (i : Nat) :
    Option (Option (Nat × Nat)) :=
  match p.searchFrom? t i with
  | some (some (a, s)) => if a = s ∧ last = some s then p.searchBehind? t i else some (some (a, s))
  | found => found

/-- The matches that are found until a round finds nothing, each round from the end of the match
before it. It is `none` if this takes more than so many rounds, or if a round begins at an offset
where the text has no place. -/
def searchesFrom? (p : Pattern) (t : Text) : Nat → Option Nat → Nat → Option (List (Nat × Nat))
  | 0, _, _ => none
  | rounds + 1, last, i =>
    match p.searchRound? t last i with
    | none => none
    | some none => some []
    | some (some (a, s)) => (searchesFrom? p t rounds (some s) s).map fun found => (a, s) :: found

theorem searchFrom?_offset (p : Pattern) (c : Cursor) :
    p.searchFrom? c.text c.offset = some ((p.search c).map Match.span) := by
  rw [searchFrom?, c.at?_offset, Option.map_some]

theorem searchBehind?_offset (p : Pattern) (c : Cursor) :
    p.searchBehind? c.text c.offset = some ((c.next?.bind p.search).map Match.span) := by
  rw [searchBehind?, c.cut?_text, Cursor.next?]
  cases hc : c.ahead with
  | nil => rfl
  | cons x rest =>
    rw [← Cursor.text_step hc]
    exact p.searchFrom?_offset (c.step x rest)

/-- The first round. -/
theorem searchRound?_start (p : Pattern) (t : Text) :
    p.searchRound? t none 0 = some ((p.search (.start t)).map Match.span) := by
  have hsearch : p.searchFrom? t 0 = some ((p.search (.start t)).map Match.span) :=
    p.searchFrom?_offset (.start t)
  rw [searchRound?, hsearch]
  cases p.search (.start t) with
  | none => rfl
  | some m => simp [Match.span]

/-- A round behind a match. -/
theorem searchRound?_offset (p : Pattern) (c : Cursor) :
    p.searchRound? c.text (some c.offset) c.offset = some ((p.searchPast c).map Match.span) := by
  rw [searchRound?, searchFrom?_offset, searchPast]
  cases p.search c with
  | none => rfl
  | some m =>
    have hempty : (m.isEmpty && m.start.offset == c.offset) = true ↔
        m.start.offset = m.stop.offset ∧ some c.offset = some m.stop.offset := by
      simp only [Match.isEmpty, Bool.and_eq_true, beq_iff_eq, Option.some.injEq]
      omega
    simp only [Option.map_some, Match.span, ← hempty]
    split
    · exact p.searchBehind?_offset c
    · rfl

/-! ## The rounds end -/

/-- Each match leaves less of the text ahead. -/
theorem length_matchesPast_le (p : Pattern) (c : Cursor) :
    (p.matchesPast c).length ≤ c.ahead.length := by
  fun_induction matchesPast p c with
  | case1 => exact Nat.zero_le _
  | case2 c m h ih =>
    have := advances_of_searchPast h
    rw [List.length_cons]
    omega

/-- **There is at most one match more than there are characters.** -/
theorem length_allMatches_le (p : Pattern) (t : Text) :
    (p.allMatches t).length ≤ t.length + 1 := by
  unfold allMatches
  split
  · exact Nat.zero_le _
  · rename_i m hm
    have hpast := p.length_matchesPast_le m.stop
    have hstart := (search_start_before hm).length_le
    have hstop := (start_before_stop hm).length_le
    have ht : (Cursor.start t).ahead.length = t.length := rfl
    rw [List.length_cons]
    omega

/-- One more match in front takes one more round. -/
theorem map_cons_ite_length {α β : Type} (f : α → β) (a : α) (as : List α) (n : Nat) :
    (if as.length < n then some (as.map f) else none).map (fun found => f a :: found) =
      if (a :: as).length < n + 1 then some ((a :: as).map f) else none := by
  by_cases h : as.length < n
  · rw [if_pos h, if_pos (by rw [List.length_cons]; omega)]
    rfl
  · rw [if_neg h, if_neg (by rw [List.length_cons]; omega)]
    rfl

/-- The rounds behind a match: each begins where the match before it ended, and there is one more of
them than there are matches. -/
theorem searchesFrom?_offset (p : Pattern) (rounds : Nat) (c : Cursor) :
    p.searchesFrom? c.text rounds (some c.offset) c.offset =
      if (p.matchesPast c).length < rounds then some ((p.matchesPast c).map Match.span)
      else none := by
  induction rounds generalizing c with
  | zero => rfl
  | succ rounds ih =>
    rw [searchesFrom?, searchRound?_offset]
    cases h : p.searchPast c with
    | none =>
      rw [matchesPast_of_none h]
      rfl
    | some m =>
      obtain ⟨d, hd, hm⟩ := exists_search_of_searchPast h
      rw [matchesPast_of_some h, ← map_cons_ite_length, ← ih, (search_text hm).2, hd.text_eq]
      rfl

/-- **The rounds end**, after the first that finds no further match, and have begun at places of the
text. -/
theorem searchesFrom?_eq (p : Pattern) (t : Text) (rounds : Nat) :
    p.searchesFrom? t rounds none 0 =
      if (p.allMatches t).length < rounds then some ((p.allMatches t).map Match.span)
      else none := by
  cases rounds with
  | zero => rfl
  | succ rounds =>
    rw [searchesFrom?, searchRound?_start, allMatches]
    cases h : p.search (.start t) with
    | none => rfl
    | some m =>
      have hpast := p.searchesFrom?_offset rounds m.stop
      rw [(search_text h).2, Cursor.text_start] at hpast
      rw [← map_cons_ite_length, ← hpast]
      rfl

-- The empty pattern is at each of the three places of this text, so a fourth round finds nothing.
example : nothing.searchesFrom? ['é', 'a'] 4 none 0 = some [(0, 0), (2, 2), (3, 3)] := by cbv

/-! ## What is found -/

/-- Each match ends at the preferred one of the ends that the pattern has there. -/
theorem head?_ends_of_mem_allMatches (p : Pattern) (t : Text) :
    ∀ m ∈ p.allMatches t, (p.ends m.start).head? = some m.stop := by
  intro m hm
  obtain ⟨d, -, hsearch⟩ := exists_search_of_mem_allMatches m hm
  exact search_stop hsearch

/-- Where a place ahead has a match, a search finds one that starts there or before. -/
theorem exists_search (hd : c.Before d) (hne : p.ends d ≠ []) :
    ∃ m, p.search c = some m ∧ m.start.offset ≤ d.offset := by
  fun_induction search p c with
  | case1 c e es he => exact ⟨⟨c, e⟩, rfl, hd.offset_le⟩
  | case2 c hnil hc =>
    rcases hd.eq_or_step with rfl | ⟨x, rest, hc', -⟩
    · exact absurd hnil hne
    · rw [hc] at hc'
      simp at hc'
  | case3 c hnil x rest hc ih =>
    rcases hd.eq_or_step with rfl | ⟨x', rest', hc', hd'⟩
    · exact absurd hnil hne
    · rw [hc] at hc'
      cases hc'
      exact ih hd'

/-- Of the places behind a match only its end may be passed over. -/
theorem exists_searchPast (hd : c.Before d) (hne : p.ends d ≠ []) :
    c = d ∨ ∃ m, p.searchPast c = some m ∧ m.start.offset ≤ d.offset := by
  obtain ⟨m, hm, hle⟩ := exists_search hd hne
  rw [searchPast, hm]
  simp only
  split
  · rcases hd.eq_or_step with rfl | ⟨x, rest, hc, hd'⟩
    · exact .inl rfl
    · have hnext : c.next? = some (c.step x rest) := by rw [Cursor.next?, hc]
      rw [hnext]
      exact .inr (exists_search hd' hne)
  · exact .inr ⟨m, rfl, hle⟩

/-- What starts at or behind the start of a match is within it or within one that follows it. -/
theorem exists_mem_cons_matchesPast {m : Match} (htext : m.stop.text = d.text) (hne : p.ends d ≠ [])
    (hle : m.start.offset ≤ d.offset) :
    ∃ k ∈ m :: p.matchesPast m.stop, k.start.offset ≤ d.offset ∧ d.offset ≤ k.stop.offset := by
  by_cases hstop : d.offset ≤ m.stop.offset
  · exact ⟨m, List.mem_cons_self, hle, hstop⟩
  · -- behind this match, the next one is the first that can reach the place
    have hbefore : m.stop.Before d := Cursor.before_of_offset_le htext (by omega)
    rcases exists_searchPast hbefore hne with rfl | ⟨k, hk, hle'⟩
    · exact absurd (Nat.le_refl _) hstop
    · obtain ⟨e, he, hsearch⟩ := exists_search_of_searchPast hk
      have htext' : k.stop.text = d.text :=
        ((search_text hsearch).2.trans he.text_eq).trans htext
      obtain ⟨j, hj, hbetween⟩ := exists_mem_cons_matchesPast htext' hne hle'
      rw [matchesPast_of_some hk]
      exact ⟨j, List.mem_cons_of_mem m hj, hbetween⟩
termination_by m.stop.ahead.length
decreasing_by exact advances_of_searchPast hk

/-- **No place is left out**: where the pattern has a match, one of the list begins there or before,
and ends there or behind. -/
theorem exists_mem_allMatches (hne : p.ends c ≠ []) :
    ∃ m ∈ p.allMatches c.text, m.start.offset ≤ c.offset ∧ c.offset ≤ m.stop.offset := by
  have hstart : (Cursor.start c.text).Before c :=
    Cursor.before_of_offset_le (Cursor.text_start c.text) (Nat.zero_le _)
  obtain ⟨m, hm, hle⟩ := exists_search hstart hne
  rw [allMatches, hm]
  exact exists_mem_cons_matchesPast ((search_text hm).2.trans (Cursor.text_start c.text)) hne hle

end Pattern

/-! ## Anchors among the matches -/

/-- The text has a part between two offsets, and `x` is the last character of it. -/
def Text.PartEndsWith (t : Text) (x : Char) (i j : Nat) : Prop :=
  ∃ m, Text.slice? t i j = some m ∧ m.getLast? = some x

instance (t : Text) (x : Char) (i j : Nat) : Decidable (t.PartEndsWith x i j) :=
  decidable_of_iff ((Text.slice? t i j).bind List.getLast? = some x) Option.bind_eq_some_iff

namespace Locator

variable {l : Locator} {t : Text}

/-- An anchor is a match whose last character is the opening delimiter. -/
theorem isAnchor_iff {m : Pattern.Match} (h : m.start.Before m.stop) :
    l.isAnchor m = true ↔ m.stop.text.PartEndsWith l.opening m.start.offset m.stop.offset := by
  obtain ⟨part, hslice, hbehind⟩ := h.exists_slice?
  have hends : m.stop.text.PartEndsWith l.opening m.start.offset m.stop.offset ↔
      part.getLast? = some l.opening := by
    simp [Text.PartEndsWith, hslice]
  have hoffset := congrArg Text.utf8Length hbehind
  rw [Text.utf8Length_append, Text.utf8Length_reverse, ← m.stop.offset_eq, ← m.start.offset_eq]
    at hoffset
  rw [hends, isAnchor, Pattern.Match.isEmpty, hbehind]
  rcases List.eq_nil_or_concat part with rfl | ⟨front, x, rfl⟩
  · simp [hoffset]
  · have := x.utf8Size_pos
    have hne : m.start.offset ≠ m.stop.offset := by
      simp at hoffset
      omega
    simp [hne]

/-- **The anchors are the matches that end with the opening delimiter.** -/
theorem spans_eq_filter (l : Locator) (t : Text) :
    l.spans t = ((l.pattern.allMatches t).map Pattern.Match.span).filter
      fun q => t.PartEndsWith l.opening q.1 q.2 := by
  rw [List.filter_map, spans, anchors]
  refine congrArg (List.map Pattern.Match.span) (List.filter_congr fun m hm => ?_)
  rw [Bool.eq_iff_iff, isAnchor_iff (Pattern.before_of_mem_allMatches m hm),
    (Pattern.allMatches_text m hm).2]
  exact decide_eq_true_iff.symm

/-- **The anchors of a text are well formed for every pattern.** The rounds of searching begin at
places of the text, and end after at most two more than there are characters. They find matches of
the pattern and leave no place out where it has one; the anchors are those that end with the opening
delimiter. So each anchor is a part of the text that is not empty and ends with the delimiter, and
none begins before the one in front of it has ended. The one that is used, whether it is closed or
not, starts last, and a region has all anchors in front of it. -/
theorem anchors_wellFormed (l : Locator) (t : Text) :
    (∃ found : List (Nat × Nat),
      (∀ rounds, l.pattern.searchesFrom? t rounds none 0 =
        if found.length < rounds then some found else none) ∧
      found.length ≤ t.length + 1 ∧
      (∀ q ∈ found, ∃ c d : Cursor, c.text = t ∧ (l.pattern.ends c).head? = some d ∧
        q = (c.offset, d.offset)) ∧
      (∀ c : Cursor, c.text = t → l.pattern.ends c ≠ [] →
        ∃ q ∈ found, q.1 ≤ c.offset ∧ c.offset ≤ q.2) ∧
      l.spans t = found.filter fun q => t.PartEndsWith l.opening q.1 q.2) ∧
    (∀ a s, (a, s) ∈ l.spans t →
      a < s ∧ s ≤ Text.utf8Length t ∧ (∃ parts, Text.cut? t a = some parts) ∧
      (∃ parts, Text.cut? t s = some parts) ∧ t.PartEndsWith l.opening a s) ∧
    (l.spans t).Pairwise (fun p q => p.2 ≤ q.1) ∧
    (∀ a s, (l.spans t).getLast? = some (a, s) →
      (∀ p ∈ l.spans t, p.1 ≤ a) ∧
      ((∃ r, l.locate t = .ok r ∧ r.anchorStart = a ∧ r.start = s) ∨
        l.locate t = .error (.unbalanced a))) ∧
    ∀ r, l.locate t = .ok r → ∀ p ∈ l.spans t, p.1 ≤ r.anchorStart ∧ p.1 < r.start := by
  refine ⟨⟨(l.pattern.allMatches t).map Pattern.Match.span, ?_, ?_, ?_, ?_, l.spans_eq_filter t⟩,
    ?_, l.pairwise_spans t, ?_, ?_⟩
  · intro rounds
    rw [List.length_map]
    exact l.pattern.searchesFrom?_eq t rounds
  · rw [List.length_map]
    exact l.pattern.length_allMatches_le t
  · intro q hq
    obtain ⟨m, hm, rfl⟩ := List.mem_map.1 hq
    exact ⟨m.start, m.stop, (Pattern.allMatches_text m hm).1,
      l.pattern.head?_ends_of_mem_allMatches t m hm, rfl⟩
  · rintro c rfl hne
    obtain ⟨m, hm, hbetween⟩ := Pattern.exists_mem_allMatches hne
    exact ⟨m.span, List.mem_map_of_mem hm, hbetween⟩
  · intro a s has
    obtain ⟨hlt, hstart, head, ahead, hcut, -⟩ := cut?_of_mem_spans has
    obtain ⟨rfl, hlen⟩ := Text.cut?_eq_some_iff.1 hcut
    refine ⟨hlt, ?_, hstart, ⟨_, hcut⟩, ?_⟩
    · rw [Text.utf8Length_append]
      omega
    · rw [spans_eq_filter, List.mem_filter, decide_eq_true_iff] at has
      exact has.2
  · intro a s hlast
    refine ⟨le_of_getLast?_spans hlast, ?_⟩
    rcases locate_cases hlast with ⟨r, hr⟩ | hunbalanced
    · exact .inl ⟨r, hr, offsets_of_locate hlast hr⟩
    · exact .inr hunbalanced
  · intro r hr p hp
    have hle := le_of_getLast?_spans (pieces_of_locate hr).1 p hp
    have hlt := (head_of_locate hr).1
    exact ⟨hle, by omega⟩

end Locator

end PageShell
