import Mathlib.Logic.Function.Iterate
import PageShell.Config.Issues
import PageShell.Proofs.AnchorOrder
import PageShell.Proofs.TextParts
import PageShell.Wrapping

/-!
# Wrapping keeps a page, and keeps it once

A wrapped page has the marker of its element, so it is never wrapped in that element again. With
the default settings and a wrapper whose names are identifiers, wrapping also keeps the anchors of
the page and everything outside of the region, and puts nothing but the element around the trimmed
markup.

Results:

* `wrap_again`: a wrapped page stays as it is, for all wrappers of the same element.
* `bracketless_tags`, `balanced_between`: the tags have no delimiters in them, and text without
  delimiters around a word does not change whether it is balanced.
* `locate_return`: the region of a page that returns markup without delimiters.
* `not_isInfix_behind_head`: nothing that is put behind an anchor makes another one.
* `wrap_keeps`: what wrapping keeps, and that no two pages become the same one.
-/

namespace PageShell

/-! ## Wrapping again -/

namespace Wrapping

/-- The text of a page when it has been wrapped, or left alone. -/
def after (w : Wrapping) (c : Category) (t : Text) : Text := (w.wrap c t).textAfter t

theorem after_after (w : Wrapping) (c : Category) (t : Text) :
    w.after c (w.after c t) = w.after c t := by
  cases h : w.wrap c t with
  | wrapped u a =>
    have hu : w.after c t = u := by
      rw [after, h]
      rfl
    rw [hu, after, wrap_of_wrapped h rfl]
    rfl
  | alreadyWrapped | noRegion | unbalanced =>
    have ht : w.after c t = t := by
      rw [after, h]
      rfl
    rw [ht, ht]

/-- **A wrapped page is never wrapped again**, by no settings and for no category, as long as the
element is the same. Any number of passes leaves what the first one has left. -/
theorem wrap_again (w : Wrapping) (c : Category) (t : Text) :
    (∀ u a, w.wrap c t = .wrapped u a →
      ∀ (w' : Wrapping) (c' : Category), w'.wrapper.component = w.wrapper.component →
        w'.wrap c' u = .alreadyWrapped ∧ (w'.wrap c' u).anchor? = none ∧ w'.after c' u = u) ∧
    ∀ n, (w.after c)^[n + 1] t = w.after c t := by
  constructor
  · intro u a h w' c' hw
    have hu := wrap_of_wrapped h hw c'
    refine ⟨hu, ?_, ?_⟩
    · rw [hu]
      rfl
    · rw [after, hu]
      rfl
  · intro n
    induction n with
    | zero => rfl
    | succ n ih => rw [Function.iterate_succ_apply', ih, after_after]

end Wrapping

/-! ## Words without brackets -/

/-- A text without the delimiters of the default settings. -/
def Bracketless (t : Text) : Prop := '(' ∉ t ∧ ')' ∉ t

instance (t : Text) : Decidable (Bracketless t) := inferInstanceAs (Decidable (_ ∧ _))

theorem bracketless_append {u v : Text} : Bracketless (u ++ v) ↔ Bracketless u ∧ Bracketless v := by
  simp only [Bracketless, List.mem_append, not_or]
  constructor
  · rintro ⟨⟨ho, ho'⟩, hc, hc'⟩
    exact ⟨⟨ho, hc⟩, ho', hc'⟩
  · rintro ⟨⟨ho, hc⟩, ho', hc'⟩
    exact ⟨⟨ho, ho'⟩, hc, hc'⟩

theorem bracketless_of_blanks {b : Text} (hb : ∀ x ∈ b, Unicode.isBlank x = true) :
    Bracketless b :=
  ⟨fun h => absurd (hb _ h) (by decide), fun h => absurd (hb _ h) (by decide)⟩

theorem bracketless_label (c : Category) : Bracketless c.label.toList := by
  cases c <;> decide

theorem isIdentifierPart_of_start {x : Char} (h : isIdentifierStart x = true) :
    isIdentifierPart x = true := by
  simp only [isIdentifierStart, isIdentifierPart, Char.isAlphanum, Bool.or_eq_true] at h ⊢
  rcases h with (h | h) | h
  · exact .inl (.inl (.inl h))
  · exact .inl (.inr h)
  · exact .inr h

/-- What an identifier cannot go on with is not in it. -/
theorem not_mem_of_isIdentifier {name : String} (h : isIdentifier name = true) {x : Char}
    (hx : isIdentifierPart x = false) : x ∉ name.toList := by
  obtain ⟨y, rest, hname, hstart, hrest⟩ := (isIdentifier_iff name).1 h
  rw [hname]
  intro hmem
  rcases List.mem_cons.1 hmem with rfl | hmem
  · rw [isIdentifierPart_of_start hstart] at hx
    cases hx
  · rw [hrest x hmem] at hx
    cases hx

theorem bracketless_of_isIdentifier {name : String} (h : isIdentifier name = true) :
    Bracketless name.toList :=
  ⟨not_mem_of_isIdentifier h (by decide), not_mem_of_isIdentifier h (by decide)⟩

/-- Whether a word is balanced does not depend on text without brackets around it. -/
theorem balanced_between {u m v : Text} (hu : Bracketless u) (hv : Bracketless v) :
    Balanced '(' ')' (u ++ m ++ v) ↔ Balanced '(' ')' m := by
  rw [balanced_append_right hv.1 hv.2, balanced_append_left hu.1 hu.2]

theorem balanced_trim {t : Text} : Balanced '(' ')' (Text.trim t) ↔ Balanced '(' ')' t := by
  obtain ⟨b, b', hb, hb', ht⟩ := Text.exists_trim_append t
  have h := balanced_between (m := Text.trim t) (bracketless_of_blanks hb)
    (bracketless_of_blanks hb')
  rw [ht] at h
  exact h.symm

theorem balanced_of_bracketless {m : Text} (hm : Bracketless m) : Balanced '(' ')' m := by
  have hnil : Balanced '(' ')' [] := by decide
  have h := (balanced_between (m := []) hm ⟨List.not_mem_nil, List.not_mem_nil⟩).2 hnil
  rwa [List.append_nil, List.append_nil] at h

/-- A page that returns markup without brackets has the markup as its region. -/
theorem locate_return {m : Text} (hm : Bracketless m) :
    Locator.default.locate ("return (".toList ++ m ++ [')']) =
      .ok ⟨0, "return (".toList, m, [')']⟩ := by
  have hbehind : returnSpans 8 (m ++ [')']) = [] := by
    rw [returnSpans_eq_nil_iff]
    rintro k ⟨blanks, -, rfl⟩ hk
    have hmem : '(' ∈ m ++ [')'] := hk.subset (by simp)
    simp [hm.1] at hmem
  have hspans : Locator.default.spans ("return (".toList ++ m ++ [')']) = [(0, 8)] := by
    rw [Locator.spans_default, List.append_assoc, returnSpans_append (by decide)]
    change returnSpans 0 "return (".toList ++ returnSpans 8 (m ++ [')']) = _
    rw [hbehind]
    decide
  rw [Locator.locate_eq_ok_iff (by decide), hspans]
  exact ⟨rfl, rfl, rfl, balanced_of_bracketless hm⟩

namespace Wrapper

/-- The four names of a wrapper. -/
def names (w : Wrapper) : List String :=
  [w.component, w.roleAttribute, w.passThrough.1, w.passThrough.2]

theorem forall_mem_names {w : Wrapper} {p : String → Prop} :
    (∀ name ∈ w.names, p name) ↔
      p w.component ∧ p w.roleAttribute ∧ p w.passThrough.1 ∧ p w.passThrough.2 := by
  simp [names]

theorem isBlank_of_mem_break {n : Nat} {x : Char} (hx : x ∈ '\n' :: List.replicate n ' ') :
    Unicode.isBlank x = true := by
  rcases List.mem_cons.1 hx with rfl | hx
  · rfl
  · rw [List.eq_of_mem_replicate hx]
    rfl

theorem innerBreak_blank : ∀ x ∈ innerBreak, Unicode.isBlank x = true :=
  fun _ => isBlank_of_mem_break

theorem outerBreak_blank : ∀ x ∈ outerBreak, Unicode.isBlank x = true :=
  fun _ => isBlank_of_mem_break

variable {w : Wrapper}

theorem bracketless_binding {name : String} (h : Bracketless name.toList) :
    Bracketless (binding name) := by
  simp only [binding, bracketless_append]
  exact ⟨⟨⟨h, by decide⟩, h⟩, by decide⟩

theorem bracketless_tags (hn : ∀ name ∈ w.names, isIdentifier name = true) (c : Category) :
    Bracketless (w.openingTag c) ∧ Bracketless w.closingTag := by
  obtain ⟨hcomponent, hrole, hfirst, hsecond⟩ := forall_mem_names.1 hn
  have hname := bracketless_of_isIdentifier hcomponent
  have hopening : Bracketless w.openingName :=
    bracketless_append (u := ['<']).2 ⟨by decide, hname⟩
  have hattribute := bracketless_of_isIdentifier hrole
  have hbinding := bracketless_binding (bracketless_of_isIdentifier hfirst)
  have hbinding' := bracketless_binding (bracketless_of_isIdentifier hsecond)
  constructor
  · simp only [openingTag, bracketless_append, hopening, hattribute, bracketless_label c, hbinding,
      hbinding', true_and, and_true]
    decide
  · simp only [closingTag, bracketless_append, hname, and_true]
    decide

end Wrapper

/-! ## Where an anchor can come from -/

namespace IsReturn

variable {m : Text}

theorem bracket_mem (hm : IsReturn m) : '(' ∈ m := by
  obtain ⟨blanks, -, rfl⟩ := hm
  simp

theorem not_isInfix (hm : IsReturn m) {v : Text} (hv : '(' ∉ v) : ¬m <:+: v :=
  fun h => hv (h.subset hm.bracket_mem)

theorem not_mem (hm : IsReturn m) {x : Char} (hx : x ∉ '(' :: returnWord)
    (hb : Unicode.isBlank x = false) : x ∉ m := by
  obtain ⟨blanks, hblanks, rfl⟩ := hm
  simp only [List.mem_cons, not_or] at hx
  intro hmem
  rcases List.mem_append.1 hmem with hmem | hmem
  · rcases List.mem_append.1 hmem with hmem | hmem
    · exact hx.2 hmem
    · rw [hblanks x hmem] at hb
      simp at hb
  · exact hx.1 (List.mem_singleton.1 hmem)

/-- Blanks around a text add no such part, as it begins and ends with no blank. -/
theorem isInfix_between (hm : IsReturn m) {b v b' : Text} (hb : ∀ x ∈ b, Unicode.isBlank x = true)
    (hb' : ∀ x ∈ b', Unicode.isBlank x = true) (h : m <:+: b ++ v ++ b') : m <:+: v := by
  obtain ⟨blanks, -, rfl⟩ := hm
  have hlast := Text.isInfix_of_concat (fun hmem => absurd (hb' _ hmem) (by decide)) h
  exact Text.isInfix_of_cons (y := 'r') (fun hmem => absurd (hb _ hmem) (by decide)) hlast

end IsReturn

/-- What is put in place of a region has no anchor in it or at its ends, if the region had none. -/
theorem not_isInfix_behind_head {w : Wrapper} (hn : ∀ name ∈ w.names, isIdentifier name = true)
    {inner tail m : Text} (htail : tail.head? = some ')') (hm : IsReturn m)
    (h : ¬m <:+: inner ++ tail) (c : Category) :
    ¬m <:+: Wrapper.innerBreak ++ w.render c (Text.trim inner) ++ Wrapper.outerBreak ++ tail := by
  obtain ⟨rest, rfl⟩ := List.head?_eq_some_iff.1 htail
  obtain ⟨tag, htag⟩ : ∃ tag, w.openingTag c = tag ++ ['>'] := ⟨_, rfl⟩
  have hpieces : Wrapper.innerBreak ++ w.render c (Text.trim inner) ++ Wrapper.outerBreak ++
      ')' :: rest = (Wrapper.innerBreak ++ tag) ++ '>' ::
        ((Wrapper.innerBreak ++ Text.trim inner ++ Wrapper.outerBreak) ++ '<' ::
          ((('/' :: w.component.toList ++ ['>']) ++ Wrapper.outerBreak) ++ ')' :: rest)) := by
    simp [Wrapper.render, Wrapper.closingTag, htag]
  rw [hpieces]
  intro hinfix
  -- the brackets of the tags and of the anchor separate four pieces
  rcases Text.isInfix_append_cons (hm.not_mem (by decide) (by decide)) hinfix with hfront | hinfix
  · have htagged := (Wrapper.bracketless_tags hn c).1
    rw [htag, bracketless_append] at htagged
    have hpiece := bracketless_append.2 ⟨bracketless_of_blanks Wrapper.innerBreak_blank, htagged.1⟩
    exact hm.not_isInfix hpiece.1 hfront
  rcases Text.isInfix_append_cons (hm.not_mem (by decide) (by decide)) hinfix with hmarkup | hinfix
  · have htrim := hm.isInfix_between Wrapper.innerBreak_blank Wrapper.outerBreak_blank hmarkup
    obtain ⟨b, b', -, -, hinner⟩ := Text.exists_trim_append inner
    have hpart : Text.trim inner <:+: inner := ⟨b, b', hinner⟩
    exact h ((htrim.trans hpart).trans (List.prefix_append inner _).isInfix)
  rcases Text.isInfix_append_cons (hm.not_mem (by decide) (by decide)) hinfix with hback | hrest
  · have htagged : Bracketless (['<'] ++ ('/' :: w.component.toList ++ ['>'])) :=
      (Wrapper.bracketless_tags hn c).2
    rw [bracketless_append] at htagged
    have hpiece := bracketless_append.2 ⟨htagged.2, bracketless_of_blanks Wrapper.outerBreak_blank⟩
    exact hm.not_isInfix hpiece.1 hback
  · exact h (hrest.trans (List.suffix_append_of_suffix (List.suffix_cons ')' rest)).isInfix)

/-! ## What wrapping keeps -/

/-- A rendered element tells its category and its markup. -/
theorem Wrapper.render_injective {w : Wrapper} {c c' : Category} {m m' : Text}
    (h : w.render c m = w.render c' m') : c = c' ∧ m = m' := by
  have hcategory : c = c' := by
    simp only [render, openingTag, List.append_assoc, List.append_cancel_left_eq] at h
    cases c <;> cases c' <;> first | rfl | simp [Category.label] at h
  subst hcategory
  refine ⟨rfl, ?_⟩
  simp only [render, List.append_assoc] at h
  exact List.append_cancel_right (List.append_cancel_left (List.append_cancel_left h))

namespace Wrapping

/-- A region with the wrapper in it, around the trimmed markup. -/
def wrappedRegion (w : Wrapper) (c : Category) (r : Region) : Region :=
  { r with inner := Wrapper.innerBreak ++ w.render c (Text.trim r.inner) ++ Wrapper.outerBreak }

theorem text_wrappedRegion (w : Wrapper) (c : Category) (r : Region) :
    (wrappedRegion w c r).text = splice w c r := by
  simp [wrappedRegion, Region.text, splice]

/-- How a page `t` of a category and the page `u` that it becomes agree. -/
structure Keeps (w : Wrapping) (c : Category) (t u : Text) (r r' : Region) : Prop where
  located : w.locator.locate t = .ok r
  relocated : w.locator.locate u = .ok r'
  text_eq : r.text = t
  wrapped_text_eq : r'.text = u
  spans_eq : w.locator.spans u = w.locator.spans t
  anchorStart_eq : r'.anchorStart = r.anchorStart
  start_eq : r'.start = r.start
  head_eq : r'.head = r.head
  tail_eq : r'.tail = r.tail
  trim_inner_eq : Text.trim r'.inner = w.wrapper.render c (Text.trim r.inner)

/-- The anchors are those in front of a region, if nothing behind it is one. -/
theorem spans_behind_head {t : Text} {r : Region} (hr : Locator.default.locate t = .ok r)
    {rest : Text} (hrest : ∀ m, IsReturn m → ¬m <:+: rest) :
    Locator.default.spans (r.head ++ rest) = returnSpans 0 r.head := by
  obtain ⟨-, hopen⟩ := Locator.head_of_locate hr
  rw [Locator.spans_default, returnSpans_append hopen, returnSpans_eq_nil_iff.2 hrest,
    List.append_nil]

/-- Blanks and tags around a text do not change whether its brackets are balanced. -/
theorem balanced_render {w : Wrapper} (hn : ∀ name ∈ w.names, isIdentifier name = true)
    (c : Category) (inner : Text) :
    Balanced '(' ')' (Wrapper.innerBreak ++ w.render c (Text.trim inner) ++ Wrapper.outerBreak) ↔
      Balanced '(' ')' inner := by
  have hinner := bracketless_of_blanks Wrapper.innerBreak_blank
  have houter := bracketless_of_blanks Wrapper.outerBreak_blank
  obtain ⟨hopening, hclosing⟩ := Wrapper.bracketless_tags hn c
  have hrender : w.render c (Text.trim inner) =
      (w.openingTag c ++ Wrapper.innerBreak) ++ Text.trim inner ++
        (Wrapper.outerBreak ++ w.closingTag) := by
    simp [Wrapper.render]
  rw [balanced_between hinner houter, hrender, balanced_between
    (bracketless_append.2 ⟨hopening, hinner⟩) (bracketless_append.2 ⟨houter, hclosing⟩),
    balanced_trim]

/-- A rendered element begins and ends with a bracket of its tags. -/
theorem trim_render (w : Wrapper) (c : Category) (m : Text) :
    Text.trim (Wrapper.innerBreak ++ w.render c m ++ Wrapper.outerBreak) = w.render c m := by
  obtain ⟨k, hk⟩ : ∃ k, w.render c m = '<' :: k ++ ['>'] := ⟨_, by
    rw [Wrapper.render, Wrapper.closingTag, ← List.append_assoc, Wrapper.openingTag,
      Wrapper.openingName]
    rfl⟩
  rw [hk]
  exact Text.trim_between Wrapper.innerBreak_blank Wrapper.outerBreak_blank (by decide)
    (by decide) k

theorem exists_keeps {w : Wrapping} (hl : w.locator = .default)
    (hn : ∀ name ∈ w.wrapper.names, isIdentifier name = true) {c : Category} {t u : Text} {a : Nat}
    (h : w.wrap c t = .wrapped u a) : ∃ r r', r.anchorStart = a ∧ w.Keeps c t u r r' := by
  obtain ⟨r, hr, rfl, ha⟩ := exists_locate_of_wrap h
  have hne : w.locator.opening ≠ w.locator.closing := by
    rw [hl]
    decide
  obtain ⟨hlast, htext, htail, hbal⟩ := Locator.pieces_of_locate hr
  rw [hl] at hr htail hbal
  have hold := Locator.not_isInfix_of_locate hr
  have hspans : w.locator.spans (splice w.wrapper c r) = w.locator.spans t := by
    have hnew := fun m hm => not_isInfix_behind_head hn htail hm (hold m hm) c
    have hsplice := spans_behind_head hr hnew
    have hbefore := spans_behind_head hr hold
    rw [← List.append_assoc, ← Region.text, htext] at hbefore
    rw [hl, hbefore, ← hsplice]
    simp [splice]
  refine ⟨r, wrappedRegion w.wrapper c r, ha, ?_⟩
  exact {
    located := hl ▸ hr
    relocated := by
      rw [Locator.locate_eq_ok_iff hne, hspans]
      refine ⟨hlast, text_wrappedRegion w.wrapper c r, hl ▸ htail, ?_⟩
      rw [hl]
      exact (balanced_render hn c r.inner).2 hbal
    text_eq := htext
    wrapped_text_eq := text_wrappedRegion w.wrapper c r
    spans_eq := hspans
    anchorStart_eq := rfl
    start_eq := rfl
    head_eq := rfl
    tail_eq := rfl
    trim_inner_eq := trim_render w.wrapper c _ }

/-- Pages that become the same one differ at most in the blanks around their markup. -/
theorem Keeps.unique {w : Wrapping} {c c' : Category} {t t' u : Text} {r r' k k' : Region}
    (h : w.Keeps c t u r k) (h' : w.Keeps c' t' u r' k') :
    c' = c ∧ r'.head = r.head ∧ Text.trim r'.inner = Text.trim r.inner ∧ r'.tail = r.tail := by
  have hk : k' = k := by
    have hlocate := h'.relocated
    rw [h.relocated] at hlocate
    cases hlocate
    rfl
  subst hk
  obtain ⟨hc, hm⟩ := Wrapper.render_injective (h'.trim_inner_eq.symm.trans h.trim_inner_eq)
  exact ⟨hc, h'.head_eq.symm.trans h.head_eq, hm, h'.tail_eq.symm.trans h.tail_eq⟩

/-- **Wrapping keeps the anchors of a page and all of it outside of the region**, with the default
settings and a wrapper whose names are identifiers. What it makes of the region is the element
around the trimmed markup. The page can be had back from this, but for the blanks around the
markup: pages that become the same one agree in everything else, and in their category. -/
theorem wrap_keeps {w : Wrapping} (hl : AnchorSettings.default.locator? = some w.locator)
    (hn : ∀ name ∈ w.wrapper.names, isIdentifier name = true) {c : Category} {t u : Text} {a : Nat}
    (h : w.wrap c t = .wrapped u a) :
    ∃ r r', r.anchorStart = a ∧ w.Keeps c t u r r' ∧
      ∀ c₂ t₂ a₂, w.wrap c₂ t₂ = .wrapped u a₂ →
        c₂ = c ∧ ∃ r₂, w.locator.locate t₂ = .ok r₂ ∧ r₂.head = r.head ∧
          Text.trim r₂.inner = Text.trim r.inner ∧ r₂.tail = r.tail := by
  rw [Locator.locator?_default, Option.some.injEq] at hl
  obtain ⟨r, r', ha, hkeeps⟩ := exists_keeps hl.symm hn h
  refine ⟨r, r', ha, hkeeps, ?_⟩
  intro c₂ t₂ a₂ h₂
  obtain ⟨r₂, r₂', -, hkeeps₂⟩ := exists_keeps hl.symm hn h₂
  obtain ⟨hc, hhead, hinner, htail⟩ := hkeeps.unique hkeeps₂
  exact ⟨hc, r₂, hkeeps₂.located, hhead, hinner, htail⟩

/-- The default wrapper around one element. -/
theorem wrap_keeps_element :
    ∃ u a, (Wrapping.mk .default .default).wrap .admin "return ( <A/> )".toList = .wrapped u a ∧
      ∃ r r', r.anchorStart = a ∧
        (Wrapping.mk .default .default).Keeps .admin "return ( <A/> )".toList u r r' := by
  have h := wrap_of_locate (w := ⟨.default, .default⟩) (c := .admin) (by decide)
    (locate_return (m := " <A/> ".toList) (by decide))
  obtain ⟨r, r', ha, hkeeps, -⟩ := wrap_keeps Locator.locator?_default (by decide) h
  exact ⟨_, _, h, r, r', ha, hkeeps⟩

end Wrapping

end PageShell
