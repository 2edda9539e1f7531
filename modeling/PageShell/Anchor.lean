import PageShell.Log
import PageShell.Pattern.Reader
import PageShell.Pattern.Search

/-!
# Anchors and the regions behind them

An anchor is a match of a pattern that ends with the opening delimiter. The region behind it runs
up to the closing delimiter that balances that opening one. The last anchor of a text counts.

Results:

* `untilClosed_append`: the scan for the closing delimiter splits the text and loses nothing.
* `locate_text`: the pieces of a located region make up the text.
* `Region.start_le_stop`, `stop_lt_of_locate`: a region lies within its text, before a delimiter.
* `locator?_default`: the pattern that the default settings stand for.
-/

namespace PageShell

/-! ## Settings -/

/-- How anchors are recognised. -/
structure AnchorSettings where
  pattern : String
  opening : Char
  closing : Char
  deriving DecidableEq, Repr

/-- The word `return`, blanks and an opening bracket. -/
def AnchorSettings.default : AnchorSettings where
  pattern := "return\\s*\\("
  opening := '('
  closing := ')'

/-- Settings whose pattern has been read. -/
structure Locator where
  pattern : Pattern
  opening : Char
  closing : Char
  deriving DecidableEq, Repr

/-- The locator for some settings, unless the pattern cannot be read. -/
def AnchorSettings.locator? [PatternReader] (settings : AnchorSettings) : Option Locator :=
  (PatternReader.read settings.pattern.toList).toOption.map
    (⟨·, settings.opening, settings.closing⟩)

/-! ## Scanning for the closing delimiter -/

/-- Splits a text at the closing delimiter that ends a region, given how many opening delimiters
inside of the region still wait for theirs. The second part begins with the delimiter. A
delimiter that both opens and closes counts as opening. -/
def untilClosed (opening closing : Char) : Nat → Text → Option (Text × Text)
  | _, [] => none
  | depth, x :: rest =>
    if x = opening then
      (untilClosed opening closing (depth + 1) rest).map fun (inner, tail) => (x :: inner, tail)
    else if x = closing then
      match depth with
      | 0 => some ([], x :: rest)
      | depth + 1 =>
        (untilClosed opening closing depth rest).map fun (inner, tail) => (x :: inner, tail)
    else (untilClosed opening closing depth rest).map fun (inner, tail) => (x :: inner, tail)

theorem untilClosed_append {opening closing : Char} {depth : Nat} {t inner tail : Text}
    (h : untilClosed opening closing depth t = some (inner, tail)) : inner ++ tail = t := by
  fun_induction untilClosed opening closing depth t generalizing inner tail with
  | case1 => simp at h
  | case2 depth rest ih | case4 rest _ depth ih | case5 depth x rest _ _ ih =>
    obtain ⟨⟨i, s⟩, hi, heq⟩ := Option.map_eq_some_iff.1 h
    cases heq
    simp [ih hi]
  | case3 rest _ => cases h; rfl

theorem untilClosed_tail {opening closing : Char} {depth : Nat} {t inner tail : Text}
    (h : untilClosed opening closing depth t = some (inner, tail)) :
    tail.head? = some closing := by
  fun_induction untilClosed opening closing depth t generalizing inner tail with
  | case1 => simp at h
  | case2 depth rest ih | case4 rest _ depth ih | case5 depth x rest _ _ ih =>
    obtain ⟨⟨i, s⟩, hi, heq⟩ := Option.map_eq_some_iff.1 h
    cases heq
    exact ih hi
  | case3 rest _ => cases h; rfl

/-! ## Locating -/

/-- A region of a text: what lies before it, up to and with the opening delimiter of its anchor,
the region itself, and the rest from the closing delimiter on. -/
structure Region where
  anchorStart : Nat
  head : Text
  inner : Text
  tail : Text
  deriving DecidableEq, Repr

namespace Region

/-- The offset of the first byte of the region. -/
def start (r : Region) : Nat := Text.utf8Length r.head

/-- The offset of the closing delimiter. -/
def stop (r : Region) : Nat := r.start + Text.utf8Length r.inner

/-- The text that the region is part of. -/
def text (r : Region) : Text := r.head ++ r.inner ++ r.tail

theorem start_le_stop (r : Region) : r.start ≤ r.stop := Nat.le_add_right _ _

end Region

/-- Why no region was located. -/
inductive LocateError
  | noAnchor
  /-- The text ended before the delimiter of the anchor at a byte offset was closed. -/
  | unbalanced (anchor : Nat)
  deriving DecidableEq, Repr

/-- The wording of the reason. -/
def LocateError.message : LocateError → String
  | noAnchor => "no anchor found"
  | unbalanced anchor => "unbalanced delimiters after anchor at byte " ++ toString anchor

namespace Locator

/-- Whether a match is an anchor: it has matched something, and the opening delimiter is the last
of it. -/
def isAnchor (l : Locator) (m : Pattern.Match) : Bool :=
  !m.isEmpty && m.stop.behind.head? == some l.opening

/-- The anchors of a text, in order. -/
def anchors (l : Locator) (t : Text) : List Pattern.Match :=
  (l.pattern.allMatches t).filter l.isAnchor

/-- The region behind an anchor. -/
def regionAt (l : Locator) (anchor : Pattern.Match) : Except LocateError Region :=
  match untilClosed l.opening l.closing 0 anchor.stop.ahead with
  | none => .error (.unbalanced anchor.start.offset)
  | some (inner, tail) => .ok ⟨anchor.start.offset, anchor.stop.passed, inner, tail⟩

/-- The region behind the last anchor of a text. -/
def locate (l : Locator) (t : Text) : Except LocateError Region :=
  match (l.anchors t).getLast? with
  | none => .error .noAnchor
  | some anchor => l.regionAt anchor

/-- The records that locating leaves. -/
def locateLog (l : Locator) (t : Text) : List Log.Record :=
  let anchors := l.anchors t
  match anchors.getLast? with
  | none => []
  | some anchor =>
    ⟨.debug, .anchor, toString anchors.length ++ " anchor(s) found, using the one at byte " ++
      toString anchor.start.offset⟩ ::
    match l.regionAt anchor with
    | .error _ => []
    | .ok region =>
      [⟨.debug, .anchor, "region spans bytes " ++ toString region.start ++ ".." ++
        toString region.stop⟩]

theorem regionAt_text {l : Locator} {anchor : Pattern.Match} {r : Region}
    (h : l.regionAt anchor = .ok r) : r.text = anchor.stop.text := by
  unfold regionAt at h
  split at h
  · simp at h
  · rename_i inner tail hu
    cases h
    simp [Region.text, Cursor.text, Cursor.passed, untilClosed_append hu]

theorem locate_text {l : Locator} {t : Text} {r : Region} (h : l.locate t = .ok r) :
    r.text = t := by
  unfold locate at h
  split at h
  · simp at h
  · rename_i anchor ha
    rw [regionAt_text h]
    exact (Pattern.allMatches_text _ (List.mem_filter.1 (List.mem_of_getLast? ha)).1).2

theorem stop_lt_of_locate {l : Locator} {t : Text} {r : Region} (h : l.locate t = .ok r) :
    r.stop < Text.utf8Length t := by
  have ht := locate_text h
  unfold locate at h
  split at h
  · simp at h
  · unfold regionAt at h
    split at h
    · simp at h
    · rename_i inner tail hu
      cases h
      have hc := untilClosed_tail hu
      cases tail with
      | nil => simp at hc
      | cons x tail =>
        rw [← ht]
        have := x.utf8Size_pos
        simp [Region.text, Region.stop, Region.start]
        omega

/-- The locator of the default settings. -/
def default : Locator where
  pattern :=
    .sequence ((['r', 'e', 't', 'u', 'r', 'n'].map fun c => .one (.single c)) ++
      [.run ⟨0, none, true⟩ .space, .one (.single '(')])
  opening := '('
  closing := ')'

theorem locator?_default : AnchorSettings.default.locator? = some default := by
  decide

end Locator

end PageShell
