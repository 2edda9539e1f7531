import PageShell.Pattern.Ends

/-!
# The matches in a text

The match of a pattern at a place is the one with the first of its ends. The matches in a text are
found from its start on, each search beginning where the match before it ended.

Results:

* `search_start_before`, `search_stop`: a search finds a match at or behind the place where it
  begins, and stops it at the first of its ends.
* `searchPast_cases`: after a match, the next one is not empty there, or it is what is found behind
  the next character.
* `advances_of_searchPast`: after a match the search moves on, so that the list of all matches
  is finite for every pattern.
* `exists_search_of_mem_matchesPast`, `exists_search_of_mem_allMatches`: each of the matches was
  found by a search.
* `allMatches_text`: all matches are places in the text that was searched.
-/

namespace PageShell.Pattern

/-! ## Search -/

/-- A match of a pattern, from `start` to `stop`. -/
structure Match where
  start : Cursor
  stop : Cursor

/-- Whether a match has matched nothing. -/
def Match.isEmpty (m : Match) : Bool := m.start.offset == m.stop.offset

/-- The first match at or behind a place. -/
def search (p : Pattern) (c : Cursor) : Option Match :=
  match p.ends c with
  | d :: _ => some ⟨c, d⟩
  | [] =>
    match _h : c.ahead with
    | [] => none
    | x :: rest => search p (c.step x rest)
termination_by c.ahead.length
decreasing_by simp [Cursor.step, _h]

theorem search_of_ends_cons {p : Pattern} {c d : Cursor} {ds : List Cursor}
    (h : p.ends c = d :: ds) : p.search c = some ⟨c, d⟩ := by
  rw [search, h]

/-- Where the pattern has no match, the search goes on behind the next character. -/
theorem search_step {p : Pattern} {c : Cursor} {x : Char} {rest : Text} (h : p.ends c = [])
    (hc : c.ahead = x :: rest) : p.search c = p.search (c.step x rest) := by
  rw [search, h]
  simp only
  split
  · rename_i hnil
    rw [hc] at hnil
    simp at hnil
  · rename_i y rest' hy
    rw [hc] at hy
    cases hy
    rfl

theorem search_nil {p : Pattern} {c : Cursor} (h : p.ends c = []) (hc : c.ahead = []) :
    p.search c = none := by
  rw [search, h]
  simp only
  split
  · rfl
  · rename_i y rest' hy
    rw [hc] at hy
    simp at hy

theorem search_spec {p : Pattern} {c : Cursor} {m : Match} (h : p.search c = some m) :
    c.Before m.start ∧ (p.ends m.start).head? = some m.stop := by
  fun_induction search p c with
  | case1 c d ds hd =>
    cases h
    exact ⟨.refl c, by simp [hd]⟩
  | case2 c hd hc => simp at h
  | case3 c hd x rest hc ih => exact ⟨(Cursor.Before.step hc).trans (ih h).1, (ih h).2⟩

theorem search_start_before {p : Pattern} {c : Cursor} {m : Match} (h : p.search c = some m) :
    c.Before m.start := (search_spec h).1

theorem search_stop {p : Pattern} {c : Cursor} {m : Match} (h : p.search c = some m) :
    (p.ends m.start).head? = some m.stop := (search_spec h).2

theorem start_before_stop {p : Pattern} {c : Cursor} {m : Match} (h : p.search c = some m) :
    m.start.Before m.stop :=
  before_of_mem_ends (List.mem_of_mem_head? (search_stop h))

/-- What a search finds are places of the same text. -/
theorem search_text {p : Pattern} {c : Cursor} {m : Match} (h : p.search c = some m) :
    m.start.text = c.text ∧ m.stop.text = c.text := by
  have hstart := (search_start_before h).text_eq
  exact ⟨hstart, (start_before_stop h).text_eq.trans hstart⟩

/-- The match to report after one that ended at `c`: an empty match right there is passed over,
and the search goes on behind the next character. -/
def searchPast (p : Pattern) (c : Cursor) : Option Match :=
  match p.search c with
  | none => none
  | some m =>
    if m.isEmpty && m.start.offset == c.offset then c.next?.bind p.search else some m

/-- **How the search goes on after a match.** -/
theorem searchPast_cases {p : Pattern} {c : Cursor} {m : Match} (h : p.searchPast c = some m) :
    (p.search c = some m ∧ c.offset < m.stop.offset) ∨
      ∃ x rest, c.ahead = x :: rest ∧ p.search (c.step x rest) = some m := by
  unfold searchPast at h
  split at h
  · simp at h
  · rename_i k hk
    split at h
    · obtain ⟨b, hb, hm⟩ := Option.bind_eq_some_iff.1 h
      unfold Cursor.next? at hb
      split at hb
      · simp at hb
      · rename_i x rest hc
        cases hb
        exact .inr ⟨x, rest, hc, hm⟩
    · rename_i hne
      cases h
      have := (search_start_before hk).offset_le
      have := (start_before_stop hk).offset_le
      simp [Match.isEmpty] at hne
      exact .inl ⟨hk, by omega⟩

theorem exists_search_of_searchPast {p : Pattern} {c : Cursor} {m : Match}
    (h : p.searchPast c = some m) : ∃ d, c.Before d ∧ p.search d = some m := by
  rcases searchPast_cases h with ⟨hm, -⟩ | ⟨x, rest, hc, hm⟩
  · exact ⟨c, .refl c, hm⟩
  · exact ⟨c.step x rest, .step hc, hm⟩

theorem advances_of_searchPast {p : Pattern} {c : Cursor} {m : Match}
    (h : p.searchPast c = some m) : m.stop.ahead.length < c.ahead.length := by
  rcases searchPast_cases h with ⟨hm, hlt⟩ | ⟨x, rest, hc, hm⟩
  · exact ((search_start_before hm).trans (start_before_stop hm)).length_lt hlt
  · have hle := ((search_start_before hm).trans (start_before_stop hm)).length_le
    simp only [Cursor.step] at hle
    rw [hc, List.length_cons]
    omega

/-- The matches to report after one that ended at `c`. -/
def matchesPast (p : Pattern) (c : Cursor) : List Match :=
  match _h : p.searchPast c with
  | none => []
  | some m => m :: matchesPast p m.stop
termination_by c.ahead.length
decreasing_by exact advances_of_searchPast _h

theorem matchesPast_of_none {p : Pattern} {c : Cursor} (h : p.searchPast c = none) :
    p.matchesPast c = [] := by
  rw [matchesPast]
  split
  · rfl
  · rename_i m hm
    rw [h] at hm
    simp at hm

theorem matchesPast_of_some {p : Pattern} {c : Cursor} {m : Match} (h : p.searchPast c = some m) :
    p.matchesPast c = m :: p.matchesPast m.stop := by
  rw [matchesPast]
  split
  · rename_i hm
    rw [h] at hm
    simp at hm
  · rename_i k hk
    rw [h] at hk
    cases hk
    rfl

/-- The matches in a text, in order and without overlap. -/
def allMatches (p : Pattern) (t : Text) : List Match :=
  match p.search (.start t) with
  | none => []
  | some m => m :: matchesPast p m.stop

/-! ## Each match was found by a search -/

theorem exists_search_of_mem_matchesPast {p : Pattern} {c : Cursor} :
    ∀ m ∈ p.matchesPast c, ∃ d, c.Before d ∧ p.search d = some m := by
  fun_induction matchesPast p c with
  | case1 => simp
  | case2 c m h ih =>
    obtain ⟨d, hd, hm⟩ := exists_search_of_searchPast h
    intro k hk
    rcases List.mem_cons.1 hk with rfl | hk
    · exact ⟨d, hd, hm⟩
    · obtain ⟨e, he, hsearch⟩ := ih k hk
      exact ⟨e, (hd.trans (search_start_before hm)).trans ((start_before_stop hm).trans he),
        hsearch⟩

theorem exists_search_of_mem_allMatches {p : Pattern} {t : Text} :
    ∀ m ∈ p.allMatches t, ∃ d, (Cursor.start t).Before d ∧ p.search d = some m := by
  intro m hm
  unfold allMatches at hm
  split at hm
  · simp at hm
  · rename_i k hk
    rcases List.mem_cons.1 hm with rfl | hm
    · exact ⟨_, .refl _, hk⟩
    · obtain ⟨d, hd, hsearch⟩ := exists_search_of_mem_matchesPast m hm
      exact ⟨d, (search_start_before hk).trans ((start_before_stop hk).trans hd), hsearch⟩

theorem allMatches_text {p : Pattern} {t : Text} :
    ∀ m ∈ p.allMatches t, m.start.text = t ∧ m.stop.text = t := by
  intro m hm
  obtain ⟨d, hd, hsearch⟩ := exists_search_of_mem_allMatches m hm
  have htext : d.text = t := hd.text_eq
  rw [← htext]
  exact search_text hsearch

end PageShell.Pattern
