import PageShell.Text.Basic

/-!
# Coloured text

Lines of a report can be coloured for a terminal. A style is switched on by its code and all
styles are switched off by one common code.
-/

namespace PageShell

/-- The styles that reports use. -/
inductive Colour
  | green
  | yellow
  | red
  | dimmed
  | bold
  | brightBlue
  deriving DecidableEq, Repr

namespace Colour

/-- The number of a style. -/
def code : Colour → String
  | green => "32"
  | yellow => "33"
  | red => "31"
  | dimmed => "2"
  | bold => "1"
  | brightBlue => "94"

/-- What switches a style on. -/
def opening (colour : Colour) : Text := '\x1b' :: '[' :: colour.code.toList ++ ['m']

/-- What switches all styles off. -/
def reset : Text := ['\x1b', '[', '0', 'm']

/-- A text in which the style is switched on again wherever the text itself switches it off. -/
def resume (style : Text) : Text → Text
  | '\x1b' :: '[' :: '0' :: 'm' :: rest => reset ++ style ++ resume style rest
  | c :: rest => c :: resume style rest
  | [] => []

/-- A text in a style, if colours are on. -/
def paint (colours : Bool) (colour : Colour) (s : String) : String :=
  if colours then
    String.ofList (colour.opening ++ resume colour.opening s.toList ++ reset)
  else s

end Colour

end PageShell
