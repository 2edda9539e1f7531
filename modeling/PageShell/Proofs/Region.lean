import Mathlib.Data.List.Infix
import PageShell.Anchor
import PageShell.Proofs.Slice

/-!
# Regions and balanced words

A word is balanced over two delimiters if it has as many of the one as of the other and no
beginning of it closes more than it has opened. The region behind an anchor is the balanced word
that starts there and is followed by a closing delimiter.

Results:

* `untilClosed_eq_some_iff`: the scan for the closing delimiter stops where the delimiters that
  wait to be closed have been closed, and nowhere else.
* `closeOffset?_succ`: counting with a depth that starts at one, the scan finds the same offset and
  never counts below zero.
* `locate_eq_ok_iff`: the located regions are the balanced words behind the last anchor that a
  closing delimiter follows.
* `locate_exact`: the same in byte offsets, with all ways to fail.
-/

namespace PageShell

/-! ## Balanced words -/

section Words

variable {opening closing : Char}

/-- A word that has as many opening as closing delimiters, and in no beginning more of the closing
ones. Other characters do not count. -/
structure Balanced (opening closing : Char) (m : Text) : Prop where
  count_eq : m.count opening = m.count closing
  count_le : ∀ p, p <+: m → p.count closing ≤ p.count opening

instance (m : Text) : Decidable (Balanced opening closing m) :=
  decidable_of_iff (m.count opening = m.count closing ∧
      ∀ p ∈ m.inits, p.count closing ≤ p.count opening)
    ⟨fun h => ⟨h.1, fun p hp => h.2 p ((List.mem_inits p m).2 hp)⟩,
      fun h => ⟨h.count_eq, fun p hp => h.count_le p ((List.mem_inits p m).1 hp)⟩⟩

/-- A word that closes `depth` delimiters more than it opens, and in no beginning even more. -/
structure Closes (opening closing : Char) (depth : Nat) (m : Text) : Prop where
  count_eq : m.count closing = m.count opening + depth
  count_le : ∀ p, p <+: m → p.count closing ≤ p.count opening + depth

theorem balanced_iff_closes (m : Text) :
    Balanced opening closing m ↔ Closes opening closing 0 m := by
  constructor
  · intro h
    exact ⟨by rw [h.count_eq, Nat.add_zero], h.count_le⟩
  · intro h
    exact ⟨by rw [h.count_eq, Nat.add_zero], h.count_le⟩

/-- A character in front of a word shifts the depth by what it opens or closes. -/
theorem closes_cons {x : Char} {m : Text} {depth depth' : Nat}
    (h : [x].count closing + depth' = [x].count opening + depth) :
    Closes opening closing depth (x :: m) ↔ Closes opening closing depth' m := by
  have hcount : ∀ (a : Char) (q : Text), (x :: q).count a = [x].count a + q.count a := by
    intro a q
    rw [← List.singleton_append, List.count_append]
  constructor
  · rintro ⟨heq, hle⟩
    rw [hcount closing m, hcount opening m] at heq
    refine ⟨by omega, fun q hq => ?_⟩
    have := hle (x :: q) (List.cons_prefix_cons.2 ⟨rfl, hq⟩)
    rw [hcount closing q, hcount opening q] at this
    omega
  · rintro ⟨heq, hle⟩
    refine ⟨by rw [hcount closing m, hcount opening m]; omega, fun p hp => ?_⟩
    rcases List.prefix_cons_iff.1 hp with rfl | ⟨q, rfl, hq⟩
    · simp
    · have := hle q hq
      rw [hcount closing q, hcount opening q]
      omega

/-- A word that closes nothing beyond what it opens cannot start with a closing delimiter. -/
theorem not_closes_zero_cons (hne : opening ≠ closing) (m : Text) :
    ¬Closes opening closing 0 (closing :: m) := by
  intro h
  have := h.count_le [closing] (List.prefix_append [closing] m)
  rw [List.count_singleton_self, List.count_singleton, if_neg (by simpa using hne.symm)] at this
  omega

theorem balanced_append_left {u m : Text} (ho : opening ∉ u) (hc : closing ∉ u) :
    Balanced opening closing (u ++ m) ↔ Balanced opening closing m := by
  induction u with
  | nil => rfl
  | cons x u ih =>
    simp only [List.mem_cons, not_or] at ho hc
    rw [← ih ho.2 hc.2, balanced_iff_closes, balanced_iff_closes, List.cons_append]
    apply closes_cons
    rw [List.count_eq_zero.2 (by simpa using hc.1), List.count_eq_zero.2 (by simpa using ho.1)]

theorem balanced_append_right {m u : Text} (ho : opening ∉ u) (hc : closing ∉ u) :
    Balanced opening closing (m ++ u) ↔ Balanced opening closing m := by
  have hzero : ∀ q, q <+: u → q.count opening = 0 ∧ q.count closing = 0 := fun q hq =>
    ⟨List.count_eq_zero.2 fun h => ho (hq.subset h), List.count_eq_zero.2 fun h => hc (hq.subset h)⟩
  obtain ⟨hou, hcu⟩ := hzero u List.prefix_rfl
  constructor
  · rintro ⟨heq, hle⟩
    rw [List.count_append, List.count_append] at heq
    exact ⟨by omega, fun p hp => hle p (hp.trans (List.prefix_append m u))⟩
  · rintro ⟨heq, hle⟩
    refine ⟨by rw [List.count_append, List.count_append]; omega, fun p hp => ?_⟩
    -- a beginning ends within `m`, or it is `m` with a beginning of `u`
    rcases List.prefix_or_prefix_of_prefix hp (List.prefix_append m u) with hpm | ⟨q, rfl⟩
    · exact hle p hpm
    · obtain ⟨hoq, hcq⟩ := hzero q ((List.prefix_append_right_inj m).1 hp)
      rw [List.count_append, List.count_append]
      omega

end Words

/-! ## The scan for the closing delimiter -/

section Scan

variable {opening closing : Char}

/-- Reading a character that does not end the scan shifts the depth of the scan and that of the word
alike. -/
theorem map_cons_eq_some_iff {x : Char} {rest inner tail : Text} {depth depth' : Nat}
    {scan : Option (Text × Text)}
    (hshift : [x].count closing + depth' = [x].count opening + depth)
    (ih : ∀ inner, scan = some (inner, tail) ↔
      inner ++ tail = rest ∧ tail.head? = some closing ∧ Closes opening closing depth' inner)
    (hx : x ≠ closing ∨ depth ≠ 0) :
    scan.map (fun parts => (x :: parts.1, parts.2)) = some (inner, tail) ↔
      inner ++ tail = x :: rest ∧ tail.head? = some closing ∧
        Closes opening closing depth inner := by
  rw [Option.map_eq_some_iff]
  constructor
  · rintro ⟨⟨i, s⟩, hi, heq⟩
    cases heq
    obtain ⟨happ, hhead, hcl⟩ := (ih i).1 hi
    exact ⟨by rw [List.cons_append, happ], hhead, (closes_cons hshift).2 hcl⟩
  · rintro ⟨happ, hhead, hcl⟩
    cases inner with
    | nil =>
      rw [List.nil_append] at happ
      subst happ
      have hdepth := hcl.count_eq
      rw [List.count_nil, List.count_nil] at hdepth
      rw [List.head?_cons, Option.some.injEq] at hhead
      rcases hx with hx | hx
      · exact absurd hhead hx
      · omega
    | cons y i =>
      rw [List.cons_append] at happ
      cases happ
      exact ⟨(i, tail), (ih i).2 ⟨rfl, hhead, (closes_cons hshift).1 hcl⟩, rfl⟩

/-- **The scan stops behind the word that closes what was open, if a closing delimiter follows.** -/
theorem untilClosed_eq_some_iff (hne : opening ≠ closing) {depth : Nat} {t inner tail : Text} :
    untilClosed opening closing depth t = some (inner, tail) ↔
      inner ++ tail = t ∧ tail.head? = some closing ∧ Closes opening closing depth inner := by
  fun_induction untilClosed opening closing depth t generalizing inner with
  | case1 =>
    constructor
    · simp
    · rintro ⟨happ, hhead, -⟩
      rw [(List.append_eq_nil_iff.1 happ).2] at hhead
      simp at hhead
  | case2 depth rest ih =>
    refine map_cons_eq_some_iff ?_ (fun i => ih) (.inl hne)
    rw [List.count_singleton_self, List.count_singleton, if_neg (by simpa using hne)]
    omega
  | case3 rest _ =>
    constructor
    · intro h
      cases h
      exact ⟨rfl, rfl, by simp, by simp⟩
    · rintro ⟨happ, -, hcl⟩
      cases inner with
      | nil => rw [← happ, List.nil_append]
      | cons y i =>
        rw [List.cons_append] at happ
        cases happ
        exact absurd hcl (not_closes_zero_cons hne i)
  | case4 rest depth _ ih =>
    refine map_cons_eq_some_iff ?_ (fun i => ih) (.inr (by omega))
    rw [List.count_singleton_self, List.count_singleton, if_neg (by simpa using hne.symm)]
    omega
  | case5 depth x rest ho hc ih =>
    refine map_cons_eq_some_iff ?_ (fun i => ih) (.inl hc)
    rw [List.count_singleton, List.count_singleton, if_neg (by simpa using hc),
      if_neg (by simpa using ho)]

/-- A delimiter that both opens and closes never closes. -/
theorem untilClosed_self (delimiter : Char) (depth : Nat) (t : Text) :
    untilClosed delimiter delimiter depth t = none := by
  fun_induction untilClosed delimiter delimiter depth t with
  | case1 => rfl
  | case2 depth rest ih => rw [ih, Option.map_none]
  | case3 _ h => exact absurd rfl h
  | case4 _ _ h => exact absurd rfl h
  | case5 depth x rest _ _ ih => rw [ih, Option.map_none]

/-- The scan as a loop over a depth and an offset: the offset where the depth falls to zero, if it
does. The outer `none` stands for a depth that is counted below zero. -/
def closeOffset? (opening closing : Char) : Nat → Nat → Text → Option (Option Nat)
  | _, _, [] => some none
  | depth, offset, x :: rest =>
    if x = opening then closeOffset? opening closing (depth + 1) (offset + x.utf8Size) rest
    else if x = closing then
      if depth = 0 then none
      else if depth - 1 = 0 then some (some offset)
      else closeOffset? opening closing (depth - 1) (offset + x.utf8Size) rest
    else closeOffset? opening closing depth (offset + x.utf8Size) rest

/-- A loop that starts with a depth above zero never counts below zero, and stops where the scan
does. -/
theorem closeOffset?_succ (depth offset : Nat) (t : Text) :
    closeOffset? opening closing (depth + 1) offset t =
      some ((untilClosed opening closing depth t).map fun parts =>
        offset + Text.utf8Length parts.1) := by
  fun_induction untilClosed opening closing depth t generalizing offset with
  | case1 => rfl
  | case2 depth rest ih =>
    rw [closeOffset?, if_pos rfl, ih, Option.map_map]
    simp [Function.comp_def, Nat.add_assoc]
  | case3 rest h =>
    rw [closeOffset?, if_neg h, if_pos rfl, if_neg (by omega), if_pos (by omega)]
    rfl
  | case4 rest depth h ih =>
    rw [closeOffset?, if_neg h, if_pos rfl, if_neg (by omega), if_neg (by omega),
      Nat.add_sub_cancel, ih, Option.map_map]
    simp [Function.comp_def, Nat.add_assoc]
  | case5 depth x rest ho hc ih =>
    rw [closeOffset?, if_neg ho, if_neg hc, ih, Option.map_map]
    simp [Function.comp_def, Nat.add_assoc]

end Scan

/-! ## Anchors as places of the text -/

namespace Pattern

/-- A match that follows another one starts behind it, and ends behind its own start. -/
theorem before_of_mem_matchesPast {p : Pattern} {c : Cursor} :
    ∀ m ∈ p.matchesPast c, c.Before m.start ∧ m.start.Before m.stop := by
  intro m hm
  obtain ⟨d, hd, hsearch⟩ := exists_search_of_mem_matchesPast m hm
  exact ⟨hd.trans (search_start_before hsearch), start_before_stop hsearch⟩

theorem before_of_mem_allMatches {p : Pattern} {t : Text} :
    ∀ m ∈ p.allMatches t, m.start.Before m.stop := by
  intro m hm
  obtain ⟨d, -, hsearch⟩ := exists_search_of_mem_allMatches m hm
  exact start_before_stop hsearch

end Pattern

/-- A text is cut at each of its places. -/
theorem Cursor.cut?_text (c : Cursor) : Text.cut? c.text c.offset = some (c.passed, c.ahead) := by
  rw [Text.cut?_eq_some_iff, c.offset_eq]
  exact ⟨rfl, Text.utf8Length_reverse c.behind⟩

namespace Locator

/-- The anchors of a text in byte offsets: where each starts and where the text behind it does. -/
def spans (l : Locator) (t : Text) : List (Nat × Nat) :=
  (l.anchors t).map fun m => (m.start.offset, m.stop.offset)

theorem exists_of_getLast?_spans {l : Locator} {t : Text} {a s : Nat}
    (h : (l.spans t).getLast? = some (a, s)) :
    ∃ m, (l.anchors t).getLast? = some m ∧ m.start.offset = a ∧ m.stop.offset = s := by
  rw [spans, List.getLast?_map] at h
  obtain ⟨m, hm, heq⟩ := Option.map_eq_some_iff.1 h
  cases heq
  exact ⟨m, hm, rfl, rfl⟩

theorem stop_text_of_mem_anchors {l : Locator} {t : Text} {m : Pattern.Match}
    (h : m ∈ l.anchors t) : m.stop.text = t :=
  (Pattern.allMatches_text m (List.mem_filter.1 h).1).2

/-- An anchor has a start in the text, before its end, and ends with the opening delimiter. -/
theorem cut?_of_mem_spans {l : Locator} {t : Text} {a s : Nat} (h : (a, s) ∈ l.spans t) :
    a < s ∧ (∃ parts, Text.cut? t a = some parts) ∧
      ∃ head ahead, Text.cut? t s = some (head, ahead) ∧ head.getLast? = some l.opening := by
  obtain ⟨m, hm, heq⟩ := List.mem_map.1 h
  cases heq
  obtain ⟨hall, hanchor⟩ := List.mem_filter.1 hm
  obtain ⟨hstart, hstop⟩ := Pattern.allMatches_text m hall
  simp only [isAnchor, Pattern.Match.isEmpty, Bool.and_eq_true, Bool.not_eq_true',
    beq_eq_false_iff_ne, beq_iff_eq] at hanchor
  have hle := (Pattern.before_of_mem_allMatches m hall).offset_le
  refine ⟨by omega, ⟨_, hstart ▸ m.start.cut?_text⟩, _, _, hstop ▸ m.stop.cut?_text, ?_⟩
  rw [Cursor.passed, List.getLast?_reverse, hanchor.2]

/-! ## Located regions -/

theorem locate_eq_noAnchor_iff {l : Locator} {t : Text} :
    l.locate t = .error .noAnchor ↔ l.spans t = [] := by
  rw [spans, List.map_eq_nil_iff, ← List.getLast?_eq_none_iff, locate]
  split
  · rename_i h
    exact ⟨fun _ => h, fun _ => rfl⟩
  · rename_i m h
    rw [h, regionAt]
    split <;> simp

/-- Behind the last anchor there is a region, or else its delimiter is not closed. -/
theorem locate_cases {l : Locator} {t : Text} {a s : Nat}
    (h : (l.spans t).getLast? = some (a, s)) :
    (∃ r, l.locate t = .ok r) ∨ l.locate t = .error (.unbalanced a) := by
  obtain ⟨m, hm, rfl, -⟩ := exists_of_getLast?_spans h
  rw [locate, hm]
  simp only [regionAt]
  split
  · exact .inr rfl
  · exact .inl ⟨_, rfl⟩

/-- **A region is the balanced word between the last anchor and a closing delimiter.** -/
theorem locate_eq_ok_iff {l : Locator} (hne : l.opening ≠ l.closing) {t : Text} {r : Region} :
    l.locate t = .ok r ↔
      (l.spans t).getLast? = some (r.anchorStart, r.start) ∧ r.text = t ∧
        r.tail.head? = some l.closing ∧ Balanced l.opening l.closing r.inner := by
  constructor
  · intro h
    have htext := locate_text h
    unfold locate at h
    split at h
    · simp at h
    · rename_i m hm
      unfold regionAt at h
      split at h
      · simp at h
      · rename_i inner tail hu
        cases h
        obtain ⟨-, hhead, hcl⟩ := (untilClosed_eq_some_iff hne).1 hu
        refine ⟨?_, htext, hhead, (balanced_iff_closes inner).2 hcl⟩
        rw [spans, List.getLast?_map, hm, Option.map_some, Region.start, Cursor.passed,
          Text.utf8Length_reverse, m.stop.offset_eq]
  · rintro ⟨hlast, htext, hhead, hbal⟩
    obtain ⟨m, hm, ha, hs⟩ := exists_of_getLast?_spans hlast
    have hcut := m.stop.cut?_text
    rw [stop_text_of_mem_anchors (List.mem_of_getLast? hm), hs, ← htext, Region.text, Region.start,
      List.append_assoc, Text.cut?_append] at hcut
    simp only [Option.some.injEq, Prod.mk.injEq] at hcut
    have hu : untilClosed l.opening l.closing 0 m.stop.ahead = some (r.inner, r.tail) :=
      (untilClosed_eq_some_iff hne).2 ⟨hcut.2, hhead, (balanced_iff_closes r.inner).1 hbal⟩
    rw [locate, hm]
    simp only [regionAt, hu, ha, ← hcut.1]

/-- Without a delimiter of its own to close it, no region is ever found. -/
theorem locate_ne_ok {l : Locator} (heq : l.opening = l.closing) (t : Text) (r : Region) :
    l.locate t ≠ .ok r := by
  intro h
  unfold locate at h
  split at h
  · simp at h
  · rw [regionAt, heq, untilClosed_self] at h
    simp at h

/-- What is known of a region that was located. -/
theorem pieces_of_locate {l : Locator} {t : Text} {r : Region} (hr : l.locate t = .ok r) :
    (l.spans t).getLast? = some (r.anchorStart, r.start) ∧ r.text = t ∧
      r.tail.head? = some l.closing ∧ Balanced l.opening l.closing r.inner :=
  (locate_eq_ok_iff fun heq => locate_ne_ok heq t r hr).1 hr

/-- A region is the one behind the last anchor. -/
theorem offsets_of_locate {l : Locator} {t : Text} {r : Region} {a s : Nat}
    (hlast : (l.spans t).getLast? = some (a, s)) (hr : l.locate t = .ok r) :
    r.anchorStart = a ∧ r.start = s := by
  have hspan := (pieces_of_locate hr).1
  rw [hlast] at hspan
  cases hspan
  exact ⟨rfl, rfl⟩

/-! ## Regions in byte offsets -/

/-- There is a closing delimiter at the offset `e`, and the text from `s` to there is balanced. -/
def ClosesAt (l : Locator) (t : Text) (s e : Nat) : Prop :=
  ∃ inner before rest, Text.slice? t s e = some inner ∧
    Text.cut? t e = some (before, l.closing :: rest) ∧ Balanced l.opening l.closing inner

/-- The pieces of a text around two offsets that enclose a balanced word. -/
theorem ClosesAt.pieces {l : Locator} {t : Text} {s e : Nat} (h : l.ClosesAt t s e) :
    ∃ head inner rest, head ++ inner ++ l.closing :: rest = t ∧ Text.utf8Length head = s ∧
      Text.utf8Length (head ++ inner) = e ∧ Balanced l.opening l.closing inner := by
  obtain ⟨inner, before, rest, hslice, hcut, hbal⟩ := h
  obtain ⟨head, tail, htext, hs, he⟩ := Text.slice?_eq_some_iff.1 hslice
  obtain ⟨hrest, hlen⟩ := Text.cut?_eq_some_iff.1 hcut
  obtain ⟨-, rfl⟩ := Text.append_inj_of_utf8Length (htext.trans hrest.symm) (he.trans hlen.symm)
  exact ⟨head, inner, rest, htext, hs, he, hbal⟩

/-- The offsets of a region cut its text where its pieces meet. -/
theorem cut?_of_text {r : Region} {t : Text} (h : r.text = t) :
    Text.cut? t r.start = some (r.head, r.inner ++ r.tail) ∧
      Text.cut? t r.stop = some (r.head ++ r.inner, r.tail) ∧
      Text.slice? t r.start r.stop = some r.inner := by
  subst h
  have hstop : r.stop = Text.utf8Length (r.head ++ r.inner) := by
    rw [Text.utf8Length_append, Region.stop, Region.start]
  refine ⟨?_, ?_, ?_⟩
  · rw [Region.text, Region.start, List.append_assoc, Text.cut?_append]
  · rw [Region.text, hstop, Text.cut?_append]
  · rw [Region.text, Region.start, hstop, Text.slice?_append]

/-- What lies before a region ends with the opening delimiter, and is longer than what lies before
its anchor. -/
theorem head_of_locate {l : Locator} {t : Text} {r : Region} (hr : l.locate t = .ok r) :
    r.anchorStart < r.start ∧ r.head.getLast? = some l.opening := by
  obtain ⟨hlast, htext, -, -⟩ := pieces_of_locate hr
  obtain ⟨hlt, -, head, ahead, hcut, hopen⟩ := cut?_of_mem_spans (List.mem_of_getLast? hlast)
  obtain ⟨hstart, -, -⟩ := cut?_of_text htext
  rw [hstart] at hcut
  cases hcut
  exact ⟨hlt, hopen⟩

theorem exists_ok_iff_closesAt {l : Locator} (hne : l.opening ≠ l.closing) {t : Text} {a s : Nat}
    (hlast : (l.spans t).getLast? = some (a, s)) (b i e : Nat) :
    (∃ r, l.locate t = .ok r ∧ r.anchorStart = b ∧ r.start = i ∧ r.stop = e) ↔
      b = a ∧ i = s ∧ l.ClosesAt t s e := by
  constructor
  · rintro ⟨r, hr, rfl, rfl, rfl⟩
    obtain ⟨-, htext, hhead, hbal⟩ := pieces_of_locate hr
    obtain ⟨rfl, rfl⟩ := offsets_of_locate hlast hr
    obtain ⟨rest, htail⟩ := List.head?_eq_some_iff.1 hhead
    obtain ⟨-, hcut, hslice⟩ := cut?_of_text htext
    exact ⟨rfl, rfl, r.inner, r.head ++ r.inner, rest, hslice, htail ▸ hcut, hbal⟩
  · rintro ⟨rfl, rfl, hcl⟩
    obtain ⟨head, inner, rest, htext, hs, he, hbal⟩ := hcl.pieces
    refine ⟨⟨b, head, inner, l.closing :: rest⟩, (locate_eq_ok_iff hne).2 ⟨?_, htext, rfl, hbal⟩,
      rfl, hs, ?_⟩
    · rw [hlast, ← hs, Region.start]
    · rw [← he, Text.utf8Length_append, Region.stop, Region.start]

theorem closesAt_unique {l : Locator} (hne : l.opening ≠ l.closing) {t : Text} {a s e e' : Nat}
    (hlast : (l.spans t).getLast? = some (a, s)) (he : l.ClosesAt t s e) (he' : l.ClosesAt t s e') :
    e = e' := by
  obtain ⟨r, hr, -, -, rfl⟩ := (exists_ok_iff_closesAt hne hlast a s e).2 ⟨rfl, rfl, he⟩
  obtain ⟨r', hr', -, -, rfl⟩ := (exists_ok_iff_closesAt hne hlast a s e').2 ⟨rfl, rfl, he'⟩
  rw [hr] at hr'
  cases hr'
  rfl

/-- The loop over depth and offset, begun behind the last anchor, finds the end of the region. -/
theorem closeOffset?_locate {l : Locator} {t : Text} {a s : Nat}
    (hlast : (l.spans t).getLast? = some (a, s)) :
    ∃ head ahead, Text.cut? t s = some (head, ahead) ∧
      closeOffset? l.opening l.closing 1 s ahead =
        some ((l.locate t).toOption.map Region.stop) := by
  obtain ⟨m, hm, -, rfl⟩ := exists_of_getLast?_spans hlast
  refine ⟨_, _, stop_text_of_mem_anchors (List.mem_of_getLast? hm) ▸ m.stop.cut?_text, ?_⟩
  rw [closeOffset?_succ, locate, hm]
  simp only [regionAt]
  cases hu : untilClosed l.opening l.closing 0 m.stop.ahead with
  | none => rfl
  | some parts =>
    simp only [Option.map_some, Except.toOption, Region.stop, Region.start, Cursor.passed,
      Text.utf8Length_reverse, m.stop.offset_eq]

/-- **Locating finds exactly the balanced region.** There is no region without an anchor, or if
one delimiter both opens and closes. Otherwise the region runs from the end of the last anchor to
the only closing delimiter with balanced text before it; if there is none, the anchor is
unbalanced. The scan counts from one and never below zero, and every offset cuts the text. -/
theorem locate_exact (l : Locator) (t : Text) :
    (l.locate t = .error .noAnchor ↔ l.spans t = []) ∧
    (l.opening = l.closing → ∀ r, l.locate t ≠ .ok r) ∧
    (∀ a s, (l.spans t).getLast? = some (a, s) →
      (l.opening ≠ l.closing →
        (∀ b i e, (∃ r, l.locate t = .ok r ∧ r.anchorStart = b ∧ r.start = i ∧ r.stop = e) ↔
          b = a ∧ i = s ∧ l.ClosesAt t s e) ∧
        (∀ e e', l.ClosesAt t s e → l.ClosesAt t s e' → e = e') ∧
        ((¬∃ e, l.ClosesAt t s e) → l.locate t = .error (.unbalanced a))) ∧
      ∃ head ahead, Text.cut? t s = some (head, ahead) ∧
        closeOffset? l.opening l.closing 1 s ahead =
          some ((l.locate t).toOption.map Region.stop)) ∧
    ∀ r, l.locate t = .ok r →
      r.anchorStart < r.start ∧ r.start ≤ r.stop ∧ r.stop < Text.utf8Length t ∧
      Text.cut? t r.start = some (r.head, r.inner ++ r.tail) ∧
      Text.cut? t r.stop = some (r.head ++ r.inner, r.tail) ∧
      Text.slice? t r.start r.stop = some r.inner ∧ r.head.getLast? = some l.opening := by
  refine ⟨locate_eq_noAnchor_iff, fun heq => locate_ne_ok heq t, ?_, ?_⟩
  · intro a s hlast
    refine ⟨fun hne => ⟨exists_ok_iff_closesAt hne hlast,
      fun e e' => closesAt_unique hne hlast, ?_⟩, closeOffset?_locate hlast⟩
    intro hnone
    rcases locate_cases hlast with ⟨r, hr⟩ | h
    · obtain ⟨-, -, hcl⟩ := (exists_ok_iff_closesAt hne hlast _ _ _).1 ⟨r, hr, rfl, rfl, rfl⟩
      exact absurd ⟨_, hcl⟩ hnone
    · exact h
  · intro r hr
    obtain ⟨hlt, hopen⟩ := head_of_locate hr
    obtain ⟨hstart, hstop, hslice⟩ := cut?_of_text (locate_text hr)
    exact ⟨hlt, r.start_le_stop, stop_lt_of_locate hr, hstart, hstop, hslice, hopen⟩

end Locator

end PageShell
