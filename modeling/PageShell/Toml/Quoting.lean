import PageShell.Digits

/-!
# Writing TOML strings

A string is written in the plainest of four forms that can hold it: basic or literal, on one line
or on several. A literal form holds its text as it is; a basic form can escape.
-/

namespace PageShell.Toml

/-! ## What a text has in it -/

/-- Whether a character is a control character other than tab and line feed. -/
def isControl (c : Char) : Bool :=
  (c.toNat < 0x20 && c != '\t' && c != '\n') || c == '\x7f'

/-- The length of the longest run of a character, given the length of the run that the text
follows on. -/
def longestRun (x : Char) (current : Nat) : Text → Nat
  | [] => current
  | c :: rest => if c = x then longestRun x (current + 1) rest
    else Nat.max current (longestRun x 0 rest)

/-! ## Forms -/

/-- The forms of a string. -/
inductive Form
  | basic
  | literal
  | multiBasic
  | multiLiteral
  deriving DecidableEq, Repr

/-- The form that a text is written in: the first that can hold it as it is, or else a basic one
with escapes. -/
def form (t : Text) : Form :=
  let control := t.any isControl
  let backslash := t.contains '\\'
  let lines := t.contains '\n'
  let quotes := longestRun '"' 0 t
  let apostrophes := longestRun '\'' 0 t
  if !control && !backslash && !lines && quotes == 0 then .basic
  else if !control && !lines && apostrophes == 0 then .literal
  else if !control && !backslash && quotes ≤ 2 then .multiBasic
  else if !control && apostrophes ≤ 2 then .multiLiteral
  else if lines then .multiBasic
  else .basic

/-! ## Escapes -/

/-- How a basic form writes a character that needs an escape on one line and on several, quotes
and line feeds apart. -/
def escape? (c : Char) : Option Text :=
  if c = '\\' then some ['\\', '\\']
  else if c = '\x08' then some ['\\', 'b']
  else if c = '\t' then some ['\\', 't']
  else if c = '\x0c' then some ['\\', 'f']
  else if c = '\r' then some ['\\', 'r']
  else if isControl c then
    some ['\\', 'u', '0', '0', Digits.upperDigit (c.toNat / 16), Digits.upperDigit (c.toNat % 16)]
  else none

/-- How the basic form on one line writes a character. -/
def basicCharacter (c : Char) : Text :=
  if c = '"' then ['\\', '"']
  else if c = '\n' then ['\\', 'n']
  else (escape? c).getD [c]

/-- How the basic form on several lines writes a text behind `quotes` quotes in a row: the third
quote in a row is escaped. -/
def multiBasicBody (quotes : Nat) : Text → Text
  | [] => []
  | c :: rest =>
    if c = '"' then
      if quotes < 2 then '"' :: multiBasicBody (quotes + 1) rest
      else '\\' :: '"' :: multiBasicBody 0 rest
    else (escape? c).getD [c] ++ multiBasicBody 0 rest

/-- A line feed behind the opening quotes of a text of several lines. It is not part of the
text. -/
def leadingBreak (t : Text) : Text := if t.contains '\n' then ['\n'] else []

/-- A text as a string. -/
def quote (t : Text) : Text :=
  match form t with
  | .basic => '"' :: t.flatMap basicCharacter ++ ['"']
  | .literal => '\'' :: t ++ ['\'']
  | .multiBasic => ['"', '"', '"'] ++ leadingBreak t ++ multiBasicBody 0 t ++ ['"', '"', '"']
  | .multiLiteral => ['\'', '\'', '\''] ++ leadingBreak t ++ t ++ ['\'', '\'', '\'']

end PageShell.Toml
