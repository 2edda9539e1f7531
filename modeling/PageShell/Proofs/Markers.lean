import PageShell.Proofs.Wrapping

/-!
# Wrapping adds one marker

A marker has an opening and a closing part, and a page may have had the one or the other before it
is wrapped, any number of times. Wrapping adds one of each. The pieces of a wrapped page lie between
breaks, and no break is in a part of the marker, so each part lies in one piece: in what the page
keeps, or in the tag that is added.

Results:

* `Text.mem_places_iff`: the places of a part of a text.
* `Text.places_append_cons`, `Text.places_break`: the places on both sides of a character, or of a
  break, that the part has not.
* `Wrapping.places_splice`: the places in a wrapped page, piece by piece.
* `Wrapping.wrap_adds_one`: what wrapping adds to the places of either part.
-/

namespace PageShell

/-! ## The places of a part -/

namespace Text

/-- The offsets at which a text has the part `m`, if the text itself begins at some offset. -/
def places (m : Text) : Nat → Text → List Nat
  | _, [] => []
  | n, c :: rest => (if m <+: c :: rest then [n] else []) ++ places m (n + c.utf8Size) rest

/-- How often a text has the part `m`. -/
def occurrences (m t : Text) : Nat := (places m 0 t).length

variable {m : Text}

theorem mem_places_iff (hm : m ≠ []) {n p : Nat} {t : Text} :
    p ∈ places m n t ↔ ∃ u v, u ++ m ++ v = t ∧ n + utf8Length u = p := by
  induction t generalizing n with
  | nil =>
    rw [places]
    constructor
    · simp
    · rintro ⟨u, v, h, -⟩
      rw [List.append_assoc, List.append_eq_nil_iff, List.append_eq_nil_iff] at h
      exact absurd h.2.1 hm
  | cons x t ih =>
    rw [places, List.mem_append, ih, List.mem_ite_nil_right, List.mem_singleton]
    constructor
    · rintro (⟨⟨v, hv⟩, rfl⟩ | ⟨u, v, rfl, rfl⟩)
      · exact ⟨[], v, hv, rfl⟩
      · exact ⟨x :: u, v, rfl, by rw [utf8Length_cons]; omega⟩
    · rintro ⟨u, v, h, rfl⟩
      cases u with
      | nil => exact .inl ⟨⟨v, h⟩, rfl⟩
      | cons y u =>
        cases h
        exact .inr ⟨u, v, rfl, by rw [utf8Length_cons]; omega⟩

/-- Where the text begins has no part in how many places there are. -/
theorem length_places (n : Nat) (t : Text) : (places m n t).length = occurrences m t := by
  have hshift : ∀ n n', (places m n t).length = (places m n' t).length := by
    induction t with
    | nil => simp [places]
    | cons x t ih =>
      intro n n'
      rw [places, places, List.length_append, List.length_append,
        ih (n + x.utf8Size) (n' + x.utf8Size)]
      split <;> rfl
  exact hshift n 0

/-! ## Pieces of a text -/

/-- A part without the character `x` ends before each `x`. -/
theorem prefix_append_cons_iff {x : Char} (hx : x ∉ m) {u v : Text} :
    m <+: u ++ x :: v ↔ m <+: u := by
  constructor
  · intro h
    rcases List.prefix_or_prefix_of_prefix h (List.prefix_append u (x :: v)) with h' | ⟨k, rfl⟩
    · exact h'
    · rw [List.prefix_append_right_inj, List.prefix_cons_iff] at h
      rcases h with rfl | ⟨k, rfl, -⟩
      · rw [List.append_nil]
      · exact absurd (by simp) hx
  · exact fun h => h.trans (List.prefix_append u _)

theorem places_cons_of_not_mem (hm : m ≠ []) {x : Char} (hx : x ∉ m) (n : Nat) (t : Text) :
    places m n (x :: t) = places m (n + x.utf8Size) t := by
  have hnot : ¬m <+: x :: t := fun h =>
    hm (List.prefix_nil.1 ((prefix_append_cons_iff (u := []) hx).1 h))
  rw [places, if_neg hnot, List.nil_append]

/-- **The places on both sides of a character** that the part has not. -/
theorem places_append_cons {x : Char} (hx : x ∉ m) (n : Nat) (u v : Text) :
    places m n (u ++ x :: v) = places m n u ++ places m (n + utf8Length u) (x :: v) := by
  induction u generalizing n with
  | nil => rfl
  | cons y u ih =>
    rw [List.cons_append, places, places, ih, List.append_assoc, utf8Length_cons, Nat.add_assoc,
      ← List.cons_append]
    simp only [prefix_append_cons_iff hx]

theorem places_append_of_head? {x : Char} (hx : x ∉ m) {v : Text}
    (hv : v.head? = some x) (n : Nat) (u : Text) :
    places m n (u ++ v) = places m n u ++ places m (n + utf8Length u) v := by
  obtain ⟨rest, rfl⟩ := List.head?_eq_some_iff.1 hv
  exact places_append_cons hx n u rest

theorem places_append_of_getLast? (hm : m ≠ []) {x : Char} (hx : x ∉ m) {u : Text}
    (hu : u.getLast? = some x) (n : Nat) (v : Text) :
    places m n (u ++ v) = places m n u ++ places m (n + utf8Length u) v := by
  obtain ⟨front, rfl⟩ := List.getLast?_eq_some_iff.1 hu
  rw [List.append_assoc, List.singleton_append, places_append_cons hx,
    places_append_cons hx, places_cons_of_not_mem hm hx, places_cons_of_not_mem hm hx,
    utf8Length_append, utf8Length_cons, utf8Length_nil, Nat.add_assoc, List.append_assoc]
  rfl

/-- A text in front that has no character of the part shifts its places. -/
theorem places_skip (hm : m ≠ []) {b : Text} (hb : ∀ x ∈ b, x ∉ m) (n : Nat) (v : Text) :
    places m n (b ++ v) = places m (n + utf8Length b) v := by
  induction b generalizing n with
  | nil => rfl
  | cons x b ih =>
    rw [List.cons_append, places_cons_of_not_mem hm (hb x List.mem_cons_self),
      ih (fun y hy => hb y (List.mem_cons_of_mem x hy)), utf8Length_cons, Nat.add_assoc]

/-- So does a break between two pieces. -/
theorem places_break (hm : m ≠ []) {b : Text} (hne : b ≠ []) (hb : ∀ x ∈ b, x ∉ m) (n : Nat)
    (u v : Text) :
    places m n (u ++ (b ++ v)) = places m n u ++ places m (n + utf8Length (u ++ b)) v := by
  obtain ⟨x, rest, rfl⟩ := List.exists_cons_of_ne_nil hne
  rw [List.cons_append, places_append_cons (hb x List.mem_cons_self), ← List.cons_append,
    places_skip hm hb, utf8Length_append, Nat.add_assoc]

theorem places_append_skip (hm : m ≠ []) {b : Text} (hb : ∀ x ∈ b, x ∉ m) (n : Nat) (u : Text) :
    places m n (u ++ b) = places m n u := by
  cases b with
  | nil => rw [List.append_nil]
  | cons x rest =>
    have h := places_break hm (List.cons_ne_nil x rest) hb n u []
    rw [List.append_nil, places, List.append_nil] at h
    exact h

/-- A part whose first character begins a text, and is nowhere else in it, has no place but the
start. -/
theorem places_of_head_not_mem {m : Text} {y : Char} {body : Text} (hy : y ∉ body) (n : Nat) :
    places (y :: m) n (y :: body) = if m <+: body then [n] else [] := by
  have hnone : ∀ n, places (y :: m) n body = [] := by
    intro n
    rw [List.eq_nil_iff_forall_not_mem]
    intro p hp
    obtain ⟨u, v, rfl, -⟩ := (mem_places_iff (List.cons_ne_nil y m)).1 hp
    exact hy (by simp)
  rw [places, hnone, List.append_nil]
  simp only [List.cons_prefix_cons, true_and]

end Text

/-! ## The places of the marker in tags -/

theorem toNat_of_isIdentifierPart {x : Char} (h : isIdentifierPart x = true) :
    0x21 ≤ x.toNat ∧ x.toNat ≤ 0x7E := by
  have hle (c d : Char) : c ≤ d ↔ c.toNat ≤ d.toNat := UInt32.le_iff_toNat_le
  simp only [isIdentifierPart, isAlphanum_iff, isAlpha_iff, Bool.or_eq_true, beq_iff_eq, hle] at h
  rcases h with (((⟨hlow, hhigh⟩ | ⟨hlow, hhigh⟩) | ⟨hlow, hhigh⟩) | rfl) | rfl
  · exact ⟨Nat.le_trans (by decide) hlow, Nat.le_trans hhigh (by decide)⟩
  · exact ⟨Nat.le_trans (by decide) hlow, Nat.le_trans hhigh (by decide)⟩
  · exact ⟨Nat.le_trans (by decide) hlow, Nat.le_trans hhigh (by decide)⟩
  · decide
  · decide

/-- No identifier has a blank in it. -/
theorem isBlank_of_isIdentifierPart {x : Char} (h : isIdentifierPart x = true) :
    Unicode.isBlank x = false := by
  obtain ⟨hlow, hhigh⟩ := toNat_of_isIdentifierPart h
  rw [Bool.eq_false_iff]
  intro hb
  obtain ⟨range, hmem, hrange⟩ := (Unicode.inRanges_iff _ _).1 hb
  have hfar : ∀ r ∈ Unicode.whiteSpace, r.2 ≤ 0x20 ∨ 0x85 ≤ r.1 := by decide
  have := hfar range hmem
  omega

namespace Wrapper

open Text (places)

variable {w : Wrapper}

/-- What an opening tag has behind the name of its element. -/
def attributes (w : Wrapper) (c : Category) : Text :=
  [' '] ++ w.roleAttribute.toList ++ ['=', '"'] ++ c.label.toList ++ ['"', ' '] ++
    binding w.passThrough.1 ++ [' '] ++ binding w.passThrough.2 ++ ['>']

theorem openingTag_eq (w : Wrapper) (c : Category) :
    w.openingTag c = '<' :: (w.component.toList ++ w.attributes c) := by
  simp [openingTag, openingName, attributes]

theorem isIdentifier_component (hn : ∀ name ∈ w.names, isIdentifier name = true) :
    isIdentifier w.component = true := (forall_mem_names.1 hn).1

/-- Only the first character of a tag is an angle bracket that opens. -/
theorem not_mem_openingTag (hn : ∀ name ∈ w.names, isIdentifier name = true) (c : Category) :
    '<' ∉ w.component.toList ++ w.attributes c := by
  have hname : ∀ name ∈ w.names, '<' ∉ name.toList := fun name hmem =>
    not_mem_of_isIdentifier (hn name hmem) rfl
  have hlabel : '<' ∉ c.label.toList := by cases c <;> decide
  obtain ⟨hcomponent, hrole, hfirst, hsecond⟩ := forall_mem_names.1 hname
  simp [attributes, binding, hcomponent, hrole, hfirst, hsecond, hlabel]

theorem not_mem_closingTag (hn : ∀ name ∈ w.names, isIdentifier name = true) :
    '<' ∉ '/' :: (w.component.toList ++ ['>']) := by
  have hcomponent := not_mem_of_isIdentifier (isIdentifier_component hn) (x := '<') rfl
  simp [hcomponent]

/-- The name of an element does not begin with a slash. -/
theorem not_prefix_slash (hn : ∀ name ∈ w.names, isIdentifier name = true) (t : Text) :
    ¬w.component.toList <+: '/' :: t ∧ ∀ u, ¬ '/' :: u <+: w.component.toList ++ t := by
  obtain ⟨y, rest, hname, hstart, -⟩ := (isIdentifier_iff _).1 (isIdentifier_component hn)
  have hy : y ≠ '/' := by
    rintro rfl
    cases hstart
  rw [hname]
  constructor
  · intro h
    exact hy (List.cons_prefix_cons.1 h).1
  · intro u h
    rw [List.cons_append, List.cons_prefix_cons] at h
    exact hy h.1.symm

/-- **An opening tag has the opening part of the marker at its start**, and nothing else of the
marker. -/
theorem places_openingTag (hn : ∀ name ∈ w.names, isIdentifier name = true) (c : Category)
    (n : Nat) :
    places w.openingName n (w.openingTag c) = [n] ∧
      places w.closingTag n (w.openingTag c) = [] := by
  rw [openingTag_eq]
  constructor
  · rw [openingName, Text.places_of_head_not_mem (not_mem_openingTag hn c),
      if_pos (List.prefix_append _ _)]
  · rw [closingTag, List.append_assoc, List.cons_append,
      Text.places_of_head_not_mem (not_mem_openingTag hn c)]
    exact if_neg ((not_prefix_slash hn _).2 _)

theorem places_closingTag (hn : ∀ name ∈ w.names, isIdentifier name = true) (n : Nat) :
    places w.openingName n w.closingTag = [] ∧ places w.closingTag n w.closingTag = [n] := by
  have hclosing : w.closingTag = '<' :: '/' :: (w.component.toList ++ ['>']) := by
    simp [closingTag]
  rw [hclosing]
  constructor
  · rw [openingName, Text.places_of_head_not_mem (not_mem_closingTag hn)]
    exact if_neg (not_prefix_slash hn _).1
  · rw [Text.places_of_head_not_mem (not_mem_closingTag hn), if_pos List.prefix_rfl]

/-- Neither part of the marker has a blank in it. -/
theorem not_blank_marker (hn : ∀ name ∈ w.names, isIdentifier name = true) :
    ∀ m ∈ [w.openingName, w.closingTag], m ≠ [] ∧ ∀ x ∈ m, Unicode.isBlank x = false := by
  have hcomponent : ∀ x ∈ w.component.toList, Unicode.isBlank x = false := by
    intro x hx
    apply isBlank_of_isIdentifierPart
    rw [← Bool.not_eq_false]
    intro hpart
    exact not_mem_of_isIdentifier (isIdentifier_component hn) hpart hx
  have hangle : Unicode.isBlank '<' = false ∧ Unicode.isBlank '/' = false ∧
      Unicode.isBlank '>' = false := by decide
  intro m hm
  simp only [List.mem_cons, List.not_mem_nil, or_false] at hm
  rcases hm with rfl | rfl
  · refine ⟨List.cons_ne_nil _ _, ?_⟩
    rw [openingName, List.forall_mem_cons]
    exact ⟨hangle.1, hcomponent⟩
  · refine ⟨List.cons_ne_nil _ _, ?_⟩
    rw [closingTag, List.forall_mem_append, List.forall_mem_append]
    exact ⟨⟨by simp [hangle], hcomponent⟩, by simp [hangle]⟩

end Wrapper

/-! ## The places of the marker in pages -/

namespace Wrapping

open Text (places occurrences utf8Length)

/-- Where the opening tag begins in a wrapped page. -/
def openingPlace (r : Region) : Nat := utf8Length (r.head ++ Wrapper.innerBreak)

/-- Where the markup begins in a wrapped page. -/
def markupPlace (w : Wrapper) (c : Category) (r : Region) : Nat :=
  openingPlace r + utf8Length (w.openingTag c ++ Wrapper.innerBreak)

/-- Where the closing tag begins in a wrapped page. -/
def closingPlace (w : Wrapper) (c : Category) (r : Region) : Nat :=
  markupPlace w c r + utf8Length (Text.trim r.inner ++ Wrapper.outerBreak)

/-- Where the rest of a wrapped page begins, with the closing delimiter. -/
def tailPlace (w : Wrapper) (c : Category) (r : Region) : Nat :=
  closingPlace w c r + utf8Length (w.closingTag ++ Wrapper.outerBreak)

/-- A part without blanks has none of those that are between the pieces of a page. -/
theorem not_mem_of_blanks {m b : Text} (hm : ∀ x ∈ m, Unicode.isBlank x = false)
    (hb : ∀ x ∈ b, Unicode.isBlank x = true) : ∀ x ∈ b, x ∉ m := by
  intro x hx hmem
  have := hb x hx
  rw [hm x hmem] at this
  cases this

/-- **The places in a wrapped page, piece by piece**, for a part that has no blanks. -/
theorem places_splice {m : Text} (hm : m ≠ []) (hb : ∀ x ∈ m, Unicode.isBlank x = false)
    (w : Wrapper) (c : Category) (r : Region) :
    places m 0 (splice w c r) = places m 0 r.head ++
      (places m (openingPlace r) (w.openingTag c) ++
        (places m (markupPlace w c r) (Text.trim r.inner) ++
          (places m (closingPlace w c r) w.closingTag ++
            places m (tailPlace w c r) r.tail))) := by
  have hinner := not_mem_of_blanks hb Wrapper.innerBreak_blank
  have houter := not_mem_of_blanks hb Wrapper.outerBreak_blank
  have hbreak : Wrapper.innerBreak ≠ [] ∧ Wrapper.outerBreak ≠ [] := by decide
  have hpieces : splice w c r = r.head ++ (Wrapper.innerBreak ++
      (w.openingTag c ++ (Wrapper.innerBreak ++ (Text.trim r.inner ++ (Wrapper.outerBreak ++
        (w.closingTag ++ (Wrapper.outerBreak ++ r.tail))))))) := by
    simp [splice, Wrapper.render]
  rw [hpieces, Text.places_break hm hbreak.1 hinner, Text.places_break hm hbreak.1 hinner,
    Text.places_break hm hbreak.2 houter, Text.places_break hm hbreak.2 houter, Nat.zero_add]
  rfl

/-- **The places in a page, piece by piece**, for a part that has no blanks and neither of the
delimiters. -/
theorem exists_places_text {l : Locator} {t : Text} {r : Region} (hr : l.locate t = .ok r) :
    ∃ i, r.start ≤ i ∧ ∀ m : Text, m ≠ [] → (∀ x ∈ m, Unicode.isBlank x = false) →
      l.opening ∉ m → l.closing ∉ m →
      places m 0 t = places m 0 r.head ++
        (places m i (Text.trim r.inner) ++ places m r.stop r.tail) := by
  obtain ⟨-, htext, htail, -⟩ := Locator.pieces_of_locate hr
  obtain ⟨-, hhead⟩ := Locator.head_of_locate hr
  obtain ⟨b, b', hb, hb', hinner⟩ := Text.exists_trim_append r.inner
  refine ⟨r.start + utf8Length b, Nat.le_add_right _ _, ?_⟩
  intro m hm hblank ho hc
  have hmarkup : places m r.start r.inner =
      places m (r.start + utf8Length b) (Text.trim r.inner) := by
    rw [← hinner, Text.places_append_skip hm (not_mem_of_blanks hblank hb'),
      Text.places_skip hm (not_mem_of_blanks hblank hb), hinner]
  rw [← htext, Region.text, List.append_assoc, Text.places_append_of_getLast? hm ho hhead,
    Text.places_append_of_head? hc htail, Nat.zero_add, ← Region.start, hmarkup, Region.stop]

/-- How the places of a marker in a page `t` and in the page `u` that it becomes fit together. -/
structure AddsMarker (w : Wrapper) (c : Category) (r : Region) (t u : Text) : Prop where
  opening_occurrences : occurrences w.openingName u = occurrences w.openingName t + 1
  closing_occurrences : occurrences w.closingTag u = occurrences w.closingTag t + 1
  start_le : r.start ≤ openingPlace r
  lt : openingPlace r < closingPlace w c r
  /-- In the page, either part is in front of the region, in its trimmed markup or behind it. -/
  kept : ∃ i, r.start ≤ i ∧ ∀ m ∈ [w.openingName, w.closingTag],
    places m 0 t = places m 0 r.head ++
      (places m i (Text.trim r.inner) ++ places m r.stop r.tail)
  /-- The opening part is still there, and in front of the markup there is one more. -/
  opening_places : places w.openingName 0 u = places w.openingName 0 r.head ++
    openingPlace r :: (places w.openingName (markupPlace w c r) (Text.trim r.inner) ++
      places w.openingName (tailPlace w c r) r.tail)
  /-- The closing part is still there, and behind the markup there is one more. -/
  closing_places : places w.closingTag 0 u = places w.closingTag 0 r.head ++
    (places w.closingTag (markupPlace w c r) (Text.trim r.inner) ++
      closingPlace w c r :: places w.closingTag (tailPlace w c r) r.tail)

/-- **Wrapping adds one marker**, if the names of the wrapper are identifiers and the delimiters are
in no part of the marker. Of both parts there is one more than before; the opening one is behind
the start of the region, and in front of the closing one. All others are those that the page had. -/
theorem wrap_adds_one {w : Wrapping} (hn : ∀ name ∈ w.wrapper.names, isIdentifier name = true)
    (ho : w.locator.opening ∉ w.wrapper.openingName ∧ w.locator.opening ∉ w.wrapper.closingTag)
    (hc : w.locator.closing ∉ w.wrapper.openingName ∧ w.locator.closing ∉ w.wrapper.closingTag)
    {c : Category} {t u : Text} {a : Nat} (h : w.wrap c t = .wrapped u a) :
    ∃ r, w.locator.locate t = .ok r ∧ r.anchorStart = a ∧ AddsMarker w.wrapper c r t u := by
  obtain ⟨r, hr, rfl, ha⟩ := exists_locate_of_wrap h
  have hmarker := Wrapper.not_blank_marker hn
  obtain ⟨i, hi, htext⟩ := exists_places_text hr
  have hkept : ∀ m ∈ [w.wrapper.openingName, w.wrapper.closingTag],
      places m 0 t = places m 0 r.head ++
        (places m i (Text.trim r.inner) ++ places m r.stop r.tail) := by
    intro m hm
    have hfree := hmarker m hm
    simp only [List.mem_cons, List.not_mem_nil, or_false] at hm
    rcases hm with rfl | rfl
    · exact htext _ hfree.1 hfree.2 ho.1 hc.1
    · exact htext _ hfree.1 hfree.2 ho.2 hc.2
  have hopening : places w.wrapper.openingName 0 (splice w.wrapper c r) = _ :=
    places_splice (hmarker _ (by simp)).1 (hmarker _ (by simp)).2 w.wrapper c r
  have hclosing : places w.wrapper.closingTag 0 (splice w.wrapper c r) = _ :=
    places_splice (hmarker _ (by simp)).1 (hmarker _ (by simp)).2 w.wrapper c r
  -- each tag has one part of the marker, and nothing of the other
  rw [(Wrapper.places_openingTag hn c _).1, (Wrapper.places_closingTag hn _).1, List.nil_append,
    List.singleton_append] at hopening
  rw [(Wrapper.places_openingTag hn c _).2, (Wrapper.places_closingTag hn _).2, List.nil_append,
    List.singleton_append] at hclosing
  refine ⟨r, hr, ha, ?_⟩
  exact {
    opening_occurrences := by
      rw [occurrences, occurrences, hopening, hkept _ (by simp)]
      simp only [List.length_append, List.length_cons, Text.length_places]
      omega
    closing_occurrences := by
      rw [occurrences, occurrences, hclosing, hkept _ (by simp)]
      simp only [List.length_append, List.length_cons, Text.length_places]
      omega
    start_le := by
      rw [openingPlace, Text.utf8Length_append, ← Region.start]
      exact Nat.le_add_right _ _
    lt := by
      have htag : 0 < utf8Length (w.wrapper.openingTag c) := by
        rw [Wrapper.openingTag_eq, Text.utf8Length_cons]
        exact Nat.add_pos_left (Char.utf8Size_pos _) _
      rw [closingPlace, markupPlace, Text.utf8Length_append]
      omega
    kept := ⟨i, hi, hkept⟩
    opening_places := hopening
    closing_places := hclosing }

/-- A page with an element of the same name in it has the opening part twice when it is wrapped. -/
theorem wrap_adds_one_element :
    ∃ u a r, (Wrapping.mk .default ⟨"A", "role", "user", "mail"⟩).wrap .coach
        "return (<A/>)".toList = .wrapped u a ∧
      AddsMarker ⟨"A", "role", "user", "mail"⟩ .coach r "return (<A/>)".toList u ∧
      occurrences "<A".toList u = 2 := by
  have hbefore : occurrences "<A".toList "return (<A/>)".toList = 1 := by decide
  have h := wrap_of_locate (w := ⟨.default, ⟨"A", "role", "user", "mail"⟩⟩) (c := .coach)
    (by decide) (locate_return (m := "<A/>".toList) (by decide))
  obtain ⟨r, -, -, hadds⟩ := wrap_adds_one (by decide) (by decide) (by decide) h
  have hafter := hadds.opening_occurrences
  exact ⟨_, _, r, h, hadds, hafter.trans (congrArg (· + 1) hbefore)⟩

end Wrapping

end PageShell
