import PageShell.Category

/-!
# The element put around a page's markup

A wrapper names an element, the attribute that tells it the page's category and two variables
that are passed through to it under their own names.

Results:

* `marker_eq_of_component`: wrappers of the same element have the same marker.
* `opening_isInfix_render`, `closing_isInfix_render`: the rendered element has both parts of its
  marker in it, which is how a page is known to be wrapped.
-/

namespace PageShell

/-- What is put around the markup of a page. -/
structure Wrapper where
  component : String
  roleAttribute : String
  passThrough : String × String
  deriving DecidableEq, Repr

/-- Two texts that together mark a page as wrapped. -/
structure Marker where
  opening : Text
  closing : Text
  deriving DecidableEq, Repr

/-- Whether a text has both parts of a marker in it, anywhere and in any order. -/
def Marker.isPresent (m : Marker) (t : Text) : Bool :=
  Text.occurs m.opening t && Text.occurs m.closing t

theorem Marker.isPresent_iff (m : Marker) (t : Text) :
    m.isPresent t = true ↔ m.opening <:+: t ∧ m.closing <:+: t := by
  simp [isPresent, Text.occurs_iff_isInfix]

namespace Wrapper

/-- The layout element with the user's name and address. -/
def default : Wrapper where
  component := "UnifiedLayout"
  roleAttribute := "role"
  passThrough := ("userName", "userEmail")

/-! ## Tags -/

/-- An attribute that passes a variable on under its own name. -/
def binding (name : String) : Text := name.toList ++ ['=', '\x7b'] ++ name.toList ++ ['\x7d']

/-- The start of the opening tag, up to the name of the element. -/
def openingName (w : Wrapper) : Text := '<' :: w.component.toList

/-- The tag in front of the markup, with the label of the category as the role. -/
def openingTag (w : Wrapper) (c : Category) : Text :=
  w.openingName ++ [' '] ++ w.roleAttribute.toList ++ ['=', '"'] ++ c.label.toList ++ ['"', ' '] ++
    binding w.passThrough.1 ++ [' '] ++ binding w.passThrough.2 ++ ['>']

/-- The tag behind the markup. -/
def closingTag (w : Wrapper) : Text := ['<', '/'] ++ w.component.toList ++ ['>']

/-- What marks a page as wrapped in the element. -/
def marker (w : Wrapper) : Marker := ⟨w.openingName, w.closingTag⟩

/-- The marker of a wrapper depends on nothing but the name of its element. -/
theorem marker_eq_of_component {w w' : Wrapper} (h : w'.component = w.component) :
    w'.marker = w.marker := by
  rw [marker, marker, openingName, openingName, closingTag, closingTag, h]

/-! ## The whole element -/

/-- A line break and the indentation of what is wrapped. -/
def innerBreak : Text := '\n' :: List.replicate 6 ' '

/-- A line break and the indentation of what closes it. -/
def outerBreak : Text := '\n' :: List.replicate 4 ' '

/-- The element with markup inside. -/
def render (w : Wrapper) (c : Category) (inner : Text) : Text :=
  w.openingTag c ++ innerBreak ++ inner ++ outerBreak ++ w.closingTag

theorem opening_isInfix_render (w : Wrapper) (c : Category) (inner : Text) :
    w.marker.opening <:+: w.render c inner := by
  refine ⟨[], ?_, ?_⟩
  · exact [' '] ++ w.roleAttribute.toList ++ ['=', '"'] ++ c.label.toList ++ ['"', ' '] ++
      binding w.passThrough.1 ++ [' '] ++ binding w.passThrough.2 ++ ['>'] ++ innerBreak ++ inner ++
      outerBreak ++ w.closingTag
  · simp [render, openingTag, marker]

theorem closing_isInfix_render (w : Wrapper) (c : Category) (inner : Text) :
    w.marker.closing <:+: w.render c inner :=
  ⟨w.openingTag c ++ innerBreak ++ inner ++ outerBreak, [], by simp [render, marker]⟩

end Wrapper

end PageShell
