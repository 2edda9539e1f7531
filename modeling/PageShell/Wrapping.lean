import PageShell.Anchor
import PageShell.Text.Blank
import PageShell.Wrapper

/-!
# Wrapping a page

A page is left alone if the marker of the wrapper is in it. Otherwise the region behind the last
anchor is trimmed and replaced by the rendered wrapper.

Results:

* `exists_locate_of_wrap`, `wrap_of_locate`: a text is wrapped around its region.
* `isPresent_of_wrap`: a wrapped text has the marker in it.
* `wrap_of_isPresent`: a text with the marker in it is left alone, whatever else it holds.
* `wrap_of_wrapped`: so is a wrapped text, for every wrapper of the same element.
-/

namespace PageShell

/-- What is looked for in a page, and what is put around it. -/
structure Wrapping where
  locator : Locator
  wrapper : Wrapper
  deriving DecidableEq, Repr

/-- What became of a page. -/
inductive Outcome
  | alreadyWrapped
  /-- The new text, and the offset of the anchor. -/
  | wrapped (text : Text) (anchor : Nat)
  | noRegion
  /-- The offset of the anchor whose delimiter is not closed. -/
  | unbalanced (anchor : Nat)
  deriving DecidableEq, Repr

namespace Outcome

/-- The wording of what became of a page. -/
def label : Outcome → String
  | alreadyWrapped => "already wrapped"
  | wrapped .. => "wrapped"
  | noRegion => "no region found"
  | unbalanced _ => "unbalanced delimiters"

/-- The text of the page afterwards, given its text before. -/
def textAfter (before : Text) : Outcome → Text
  | wrapped text _ => text
  | _ => before

/-- The offset of the anchor, if there is one. -/
def anchor? : Outcome → Option Nat
  | wrapped _ anchor => some anchor
  | unbalanced anchor => some anchor
  | _ => none

/-- Whether the page has been given a new text. -/
def isWrapped : Outcome → Bool
  | wrapped .. => true
  | _ => false

/-- The outcome for a text without a region. -/
def ofLocateError : LocateError → Outcome
  | .noAnchor => noRegion
  | .unbalanced anchor => unbalanced anchor

end Outcome

namespace Wrapping

/-- The text with the wrapper around the trimmed markup of a region. -/
def splice (w : Wrapper) (c : Category) (r : Region) : Text :=
  r.head ++ Wrapper.innerBreak ++ w.render c (Text.trim r.inner) ++ Wrapper.outerBreak ++ r.tail

/-- What becomes of a page of a category. -/
def wrap (w : Wrapping) (c : Category) (t : Text) : Outcome :=
  if w.wrapper.marker.isPresent t then .alreadyWrapped
  else match w.locator.locate t with
    | .error e => .ofLocateError e
    | .ok region => .wrapped (splice w.wrapper c region) region.anchorStart

/-- The records that wrapping leaves. -/
def wrapLog (w : Wrapping) (t : Text) : List Log.Record :=
  if w.wrapper.marker.isPresent t then [] else w.locator.locateLog t

theorem isPresent_splice (w : Wrapper) (c : Category) (r : Region) :
    w.marker.isPresent (splice w c r) = true := by
  rw [Marker.isPresent_iff]
  have h : w.render c (Text.trim r.inner) <:+: splice w c r :=
    ⟨r.head ++ Wrapper.innerBreak, Wrapper.outerBreak ++ r.tail, by simp [splice]⟩
  exact ⟨(w.opening_isInfix_render c _).trans h, (w.closing_isInfix_render c _).trans h⟩

/-- Only a text with a region is wrapped, around the markup of that region. -/
theorem exists_locate_of_wrap {w : Wrapping} {c : Category} {t u : Text} {a : Nat}
    (h : w.wrap c t = .wrapped u a) :
    ∃ r, w.locator.locate t = .ok r ∧ splice w.wrapper c r = u ∧ r.anchorStart = a := by
  unfold wrap at h
  split at h
  · simp at h
  · split at h
    · rename_i e _
      cases e <;> simp [Outcome.ofLocateError] at h
    · rename_i r hr
      cases h
      exact ⟨r, hr, rfl, rfl⟩

theorem isPresent_of_wrap {w : Wrapping} {c : Category} {t u : Text} {anchor : Nat}
    (h : w.wrap c t = .wrapped u anchor) : w.wrapper.marker.isPresent u = true := by
  obtain ⟨r, -, rfl, -⟩ := exists_locate_of_wrap h
  exact isPresent_splice ..

theorem wrap_of_isPresent {w : Wrapping} {c : Category} {t : Text}
    (h : w.wrapper.marker.isPresent t = true) : w.wrap c t = .alreadyWrapped := by
  simp [wrap, h]

theorem wrap_of_locate {w : Wrapping} {c : Category} {t : Text} {r : Region}
    (hm : w.wrapper.marker.isPresent t = false) (hr : w.locator.locate t = .ok r) :
    w.wrap c t = .wrapped (splice w.wrapper c r) r.anchorStart := by
  simp [wrap, hm, hr]

theorem wrap_of_wrapped {w w' : Wrapping} {c : Category} {t u : Text} {a : Nat}
    (h : w.wrap c t = .wrapped u a) (hw : w'.wrapper.component = w.wrapper.component)
    (c' : Category) : w'.wrap c' u = .alreadyWrapped := by
  apply wrap_of_isPresent
  rw [Wrapper.marker_eq_of_component hw]
  exact isPresent_of_wrap h

end Wrapping

end PageShell
