import PageShell.Text.Basic

/-!
# Structured data

The values that data formats write down. A configuration is turned into such a value before it is
written in one of the formats, and made from one after reading.
-/

namespace PageShell

/-- A value of structured data. -/
inductive Data
  | null
  | boolean (value : Bool)
  | integer (value : Int)
  /-- A number with a fraction or an exponent, as it was written. -/
  | decimal (written : Text)
  /-- A date or a time of day, as it was written. -/
  | moment (written : Text)
  /-- A single character. Every format writes it as text, and reading gives text. -/
  | character (c : Char)
  | text (s : String)
  | list (items : List Data)
  /-- Named fields, in order. -/
  | record (fields : List (String × Data))
  deriving Repr, Inhabited

namespace Data

/-- The value under a name, among fields of which the first counts. -/
def field? (fields : List (String × Data)) (name : String) : Option Data :=
  (fields.find? (·.1 == name)).map (·.2)

/-- The text that a value is. -/
def text? : Data → Option String
  | character c => some (String.singleton c)
  | text s => some s
  | _ => none

/-- The truth value that a value is. -/
def boolean? : Data → Option Bool
  | boolean b => some b
  | _ => none

/-- The character that a value is, or that its text consists of. -/
def character? : Data → Option Char
  | character c => some c
  | text s =>
    match s.toList with
    | [c] => some c
    | _ => none
  | _ => none

/-- The list that a value is. -/
def list? : Data → Option (List Data)
  | list items => some items
  | _ => none

end Data

end PageShell
