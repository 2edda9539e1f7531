import PageShell.Data
import PageShell.Digits

/-!
# Writing JSON

A value is written with two blanks of indentation for each level, every item and every field on a
line of its own.

Results:

* `escape_eq_self`: characters other than controls, quotes and backslashes stand for themselves.
-/

namespace PageShell.Json

export Digits (hexDigit)

/-! ## Strings -/

/-- How a character is written in a string. -/
def escape (c : Char) : Text :=
  if c = '"' then ['\\', '"']
  else if c = '\\' then ['\\', '\\']
  else if c = '\x08' then ['\\', 'b']
  else if c = '\t' then ['\\', 't']
  else if c = '\n' then ['\\', 'n']
  else if c = '\x0c' then ['\\', 'f']
  else if c = '\r' then ['\\', 'r']
  else if c.toNat < 0x20 then
    ['\\', 'u', '0', '0', hexDigit (c.toNat / 16), hexDigit (c.toNat % 16)]
  else [c]

theorem escape_eq_self {c : Char} (hq : c ≠ '"') (hb : c ≠ '\\') (hc : 0x20 ≤ c.toNat) :
    escape c = [c] := by
  have h : ∀ d : Char, d.toNat < 0x20 → c ≠ d := fun d hd h => by subst h; omega
  simp [escape, hq, hb, h '\x08' (by decide), h '\t' (by decide), h '\n' (by decide),
    h '\x0c' (by decide), h '\r' (by decide), Nat.not_lt.2 hc]

/-- A string in quotes. -/
def quote (t : Text) : Text := '"' :: t.flatMap escape ++ ['"']

/-! ## Values -/

/-- A line break with the indentation of a level. -/
def newLine (level : Nat) : Text := '\n' :: List.replicate (2 * level) ' '

mutual

/-- A value on a given level. -/
def writeAt (level : Nat) : Data → Text
  | .null => "null".toList
  | .boolean value => (if value then "true" else "false").toList
  | .integer value => (toString value).toList
  | .decimal written => written
  | .moment written => quote written
  | .character c => quote [c]
  | .text s => quote s.toList
  | .list [] => ['[', ']']
  | .list (item :: items) =>
    '[' :: newLine (level + 1) ++ writeAt (level + 1) item ++ writeItems (level + 1) items ++
      newLine level ++ [']']
  | .record [] => ['\x7b', '\x7d']
  | .record ((name, value) :: fields) =>
    '\x7b' :: newLine (level + 1) ++ quote name.toList ++ [':', ' '] ++ writeAt (level + 1) value ++
      writeFields (level + 1) fields ++ newLine level ++ ['\x7d']

/-- The items behind the first, each on a new line. -/
def writeItems (level : Nat) : List Data → Text
  | [] => []
  | item :: items => ',' :: newLine level ++ writeAt level item ++ writeItems level items

/-- The fields behind the first, each on a new line. -/
def writeFields (level : Nat) : List (String × Data) → Text
  | [] => []
  | (name, value) :: fields =>
    ',' :: newLine level ++ quote name.toList ++ [':', ' '] ++ writeAt level value ++
      writeFields level fields

end

/-- A value as a document. -/
def write (d : Data) : Text := writeAt 0 d

end PageShell.Json
