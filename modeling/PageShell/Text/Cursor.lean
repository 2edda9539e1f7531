import PageShell.Text.Basic

/-!
# Places in a text

A cursor is a place between two characters of a text, with what lies behind it and ahead of it.

Results:

* `text_step`: stepping over a character stays in the same text.
* `Before.offset_le`: a later place has the greater offset.
-/

namespace PageShell

/-- A place in a text. What lies behind is kept nearest first, together with its length in
bytes, which is the offset of the place. -/
structure Cursor where
  behind : Text
  ahead : Text
  offset : Nat := Text.utf8Length behind
  offset_eq : offset = Text.utf8Length behind := by rfl

namespace Cursor

/-- The start of a text. -/
def start (t : Text) : Cursor where
  behind := []
  ahead := t
  offset := 0

/-- The text that the cursor is a place of. -/
def text (c : Cursor) : Text := c.behind.reverse ++ c.ahead

/-- The part of the text behind the cursor, in order. -/
def passed (c : Cursor) : Text := c.behind.reverse

/-- The place behind the next character `x`, when `rest` follows it. -/
def step (c : Cursor) (x : Char) (rest : Text) : Cursor where
  behind := x :: c.behind
  ahead := rest
  offset := c.offset + x.utf8Size
  offset_eq := by simp [c.offset_eq, Nat.add_comm]

/-- The place one character further on, unless the text ends here. -/
def next? (c : Cursor) : Option Cursor :=
  match c.ahead with
  | [] => none
  | x :: rest => some (c.step x rest)

@[simp] theorem text_start (t : Text) : (start t).text = t := rfl

theorem text_step {c : Cursor} {x : Char} {rest : Text} (h : c.ahead = x :: rest) :
    (c.step x rest).text = c.text := by
  simp [text, step, h]

/-! ## The order of places -/

/-- `d` lies `between` characters further on in the text than `c`. -/
def Before (c d : Cursor) : Prop :=
  ∃ between : Text, c.ahead = between ++ d.ahead ∧ d.behind = between.reverse ++ c.behind

namespace Before

theorem refl (c : Cursor) : Before c c := ⟨[], rfl, rfl⟩

theorem trans {c d e : Cursor} (h : Before c d) (g : Before d e) : Before c e := by
  obtain ⟨u, hu, hu'⟩ := h
  obtain ⟨v, hv, hv'⟩ := g
  exact ⟨u ++ v, by simp [hu, hv], by simp [hu', hv']⟩

theorem step {c : Cursor} {x : Char} {rest : Text} (h : c.ahead = x :: rest) :
    Before c (c.step x rest) :=
  ⟨[x], by simp [Cursor.step, h], by simp [Cursor.step]⟩

theorem offset_le {c d : Cursor} (h : Before c d) : c.offset ≤ d.offset := by
  obtain ⟨u, -, hu⟩ := h
  simp [c.offset_eq, d.offset_eq, hu]

theorem text_eq {c d : Cursor} (h : Before c d) : d.text = c.text := by
  obtain ⟨u, hu, hu'⟩ := h
  simp [text, hu, hu']

theorem length_le {c d : Cursor} (h : Before c d) : d.ahead.length ≤ c.ahead.length := by
  obtain ⟨u, hu, -⟩ := h
  simp [hu]

theorem length_lt {c d : Cursor} (h : Before c d) (hlt : c.offset < d.offset) :
    d.ahead.length < c.ahead.length := by
  obtain ⟨u, hu, hu'⟩ := h
  cases u with
  | nil => simp [c.offset_eq, d.offset_eq, hu'] at hlt
  | cons x u =>
    rw [hu]
    simp only [List.length_append, List.length_cons]
    omega

end Before

end Cursor

end PageShell
