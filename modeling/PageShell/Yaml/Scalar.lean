import PageShell.Decimal
import PageShell.Digits

/-!
# YAML scalars

A text is written plain, in single or double quotes or as a literal block. It is quoted if it
would be read as something else when plain.
-/

namespace PageShell.Yaml

/-! ## Texts that read as something else -/

/-- Whether a text is the null value. -/
def isNull (t : Text) : Bool :=
  ["null", "Null", "NULL", "~"].any (·.toList == t)

/-- Whether a text is a truth value. -/
def isBoolean (t : Text) : Bool :=
  ["true", "True", "TRUE", "false", "False", "FALSE"].any (·.toList == t)

/-- A text without a sign at its start. -/
def dropSign : Text → Text
  | '+' :: rest => rest
  | '-' :: rest => rest
  | t => t

/-- Whether a text is a sequence of digits with a needless zero in front. -/
def isZeroLed (t : Text) : Bool :=
  match dropSign t with
  | '0' :: c :: rest => (c :: rest).all Char.isDigit
  | _ => false

/-- The number that digits of a base write. There has to be a digit. -/
def number? (base : Nat) (ds : Text) : Option Nat :=
  if ds.isEmpty then none else Digits.read? base ds

/-- The number that a text without sign is, in base ten or with the mark of another base. -/
def unsigned? (t : Text) : Option Nat :=
  match t with
  | '0' :: 'x' :: ds => number? 16 ds
  | '0' :: 'o' :: ds => number? 8 ds
  | '0' :: 'b' :: ds => number? 2 ds
  | ds => if isZeroLed ds then none else number? 10 ds

/-- Whether a text is an integer of at most 128 bits. -/
def isInteger (t : Text) : Bool :=
  match t with
  | '-' :: rest => (unsigned? rest).any (· ≤ Nat.pow 2 127)
  | '+' :: rest => (unsigned? rest).any (· < Nat.pow 2 128)
  | rest => (unsigned? rest).any (· < Nat.pow 2 128)

/-- Whether a text is a number in double precision: a finite one, an infinity or no number. -/
def isFloat (t : Text) : Bool :=
  [".nan", ".NaN", ".NAN"].any (·.toList == t) ||
    [".inf", ".Inf", ".INF"].any (·.toList == dropSign t) ||
    (!isZeroLed t && (Decimal.read? (dropSign t)).any Decimal.isFinite)

/-- Whether a text has to be quoted to be read as text. -/
def isAmbiguous (t : Text) : Bool :=
  t.isEmpty || isNull t || isBoolean t || isInteger t || isFloat t || isZeroLed t

/-! ## What a text has in it -/

/-- Whether a character ends a line. -/
def isBreak (c : Char) : Bool :=
  c == '\n' || c == '\r' || c == '\u0085' || c == '\u2028' || c == '\u2029'

/-- Whether a character is a space, a tab or a line break, or there is none. -/
def isGap (c : Option Char) : Bool := c.all fun c => c == ' ' || c == '\t' || isBreak c

/-- Whether a character can be written as it is. -/
def isPrintable (c : Char) : Bool :=
  c == '\n' || (0x20 ≤ c.toNat && c.toNat ≤ 0x7E) || (0xA0 ≤ c.toNat && c.toNat != 0xFEFF)

/-- Whether a character with a given meaning stands directly before another one. -/
def hasPair (first second : Char → Bool) : Text → Bool
  | a :: b :: rest => (first a && second b) || hasPair first second (b :: rest)
  | _ => false

/-- Whether a space stands before a line break. -/
def hasSpaceBreak (t : Text) : Bool := hasPair (· == ' ') isBreak t

/-- Whether a space stands behind a line break. -/
def hasBreakSpace (t : Text) : Bool := hasPair isBreak (· == ' ') t

/-- Whether a text ends in a space. -/
def endsInSpace (t : Text) : Bool := t.getLast? == some ' '

/-- Whether a text has signs in it that a plain text must not have, behind a given character. -/
def hasSigns (before : Option Char) : Text → Bool
  | [] => false
  | c :: rest =>
    (c == ':' && isGap rest.head?) || (c == '#' && isGap before) || hasSigns (some c) rest

/-- Whether a text starts with a sign that a plain text must not start with. -/
def startsWithSign (t : Text) : Bool :=
  match t with
  | [] => false
  | c :: rest =>
    "#,[]\x7b\x7d&*!|>'\"%@`".toList.contains c ||
      ((c == '-' || c == '?' || c == ':') && isGap rest.head?) ||
      ['-', '-', '-'].isPrefixOf t || ['.', '.', '.'].isPrefixOf t

/-! ## Forms -/

/-- The forms of a scalar. -/
inductive Form
  | plain
  | single
  | double
  | literal
  deriving DecidableEq, Repr

/-- Whether a text can be written plain. -/
def allowsPlain (t : Text) : Bool :=
  !t.isEmpty && !startsWithSign t && !hasSigns none t && !t.any isBreak && t.all isPrintable &&
    t.head? != some ' ' && !endsInSpace t

/-- Whether a text can be written in single quotes. -/
def allowsSingle (t : Text) : Bool := t.all isPrintable && !hasSpaceBreak t && !hasBreakSpace t

/-- Whether a text can be written as a literal block. -/
def allowsLiteral (t : Text) : Bool := t.all isPrintable && !hasSpaceBreak t && !endsInSpace t

/-- The form of a text for which single quotes are asked. -/
def quotedForm (t : Text) : Form := if allowsSingle t then .single else .double

/-- The form of a text: a literal block if it has several lines, quotes if it could be taken for
something else, and plain otherwise, as far as the form allows. -/
def form (t : Text) : Form :=
  if t.contains '\n' then if allowsLiteral t then .literal else .double
  else if isAmbiguous t || !allowsPlain t then quotedForm t
  else .plain

/-! ## Writing -/

/-- Blanks up to a column. -/
def indentation (indent : Nat) : Text := List.replicate indent ' '

/-- Characters of a text of which those that follow a line break are indented; `fresh` says that
a line break comes before. -/
def indentLines (indent : Nat) (fresh : Bool) : Text → Text
  | [] => []
  | c :: rest =>
    if isBreak c then c :: indentLines indent true rest
    else if fresh then indentation indent ++ c :: indentLines indent false rest
    else c :: indentLines indent false rest

/-- Characters in single quotes: an apostrophe is written twice, the first of several line feeds
too, and the line behind a line break is indented. `fresh` says that a line break comes before. -/
def singleBody (indent : Nat) (fresh : Bool) : Text → Text
  | [] => if fresh then indentation indent else []
  | c :: rest =>
    if isBreak c then
      (if c = '\n' ∧ !fresh then ['\n'] else []) ++ c :: singleBody indent true rest
    else
      (if fresh then indentation indent else []) ++
        (if c = '\'' then ['\'', '\''] else [c]) ++ singleBody indent false rest

/-- A number in so many hexadecimal digits. -/
def hex (count n : Nat) : Text :=
  ((List.range count).map fun i => Digits.upperDigit (n / Nat.pow 16 i % 16)).reverse

/-- How a character is written in double quotes. -/
def doubleCharacter (c : Char) : Text :=
  if c == '\x00' then ['\\', '0']
  else if c == '\x07' then ['\\', 'a']
  else if c == '\x08' then ['\\', 'b']
  else if c == '\t' then ['\\', 't']
  else if c == '\n' then ['\\', 'n']
  else if c == '\x0b' then ['\\', 'v']
  else if c == '\x0c' then ['\\', 'f']
  else if c == '\r' then ['\\', 'r']
  else if c == '\x1b' then ['\\', 'e']
  else if c == '"' then ['\\', '"']
  else if c == '\\' then ['\\', '\\']
  else if c == '\u0085' then ['\\', 'N']
  else if c == '\u2028' then ['\\', 'L']
  else if c == '\u2029' then ['\\', 'P']
  else if isPrintable c then [c]
  else if c.toNat ≤ 0xFF then '\\' :: 'x' :: hex 2 c.toNat
  else if c.toNat ≤ 0xFFFF then '\\' :: 'u' :: hex 4 c.toNat
  else '\\' :: 'U' :: hex 8 c.toNat

/-- The head of a literal block: a mark for a text that starts with a blank, and one for how the
text ends. -/
def blockHead (t : Text) : Text :=
  let start := t.head?.any fun c => c == ' ' || isBreak c
  let ending :=
    match t.reverse with
    | a :: b :: _ => if !isBreak a then ['-'] else if isBreak b then ['+'] else []
    | [a] => if isBreak a then ['+'] else ['-']
    | [] => ['-']
  '|' :: (if start then ['2'] else []) ++ ending

/-- A text in a form, at an indentation. -/
def writeAs (form : Form) (indent : Nat) (t : Text) : Text :=
  match form with
  | .plain => t ++ ['\n']
  | .single => '\'' :: singleBody indent false t ++ ['\'', '\n']
  | .double => '"' :: t.flatMap doubleCharacter ++ ['"', '\n']
  | .literal =>
    blockHead t ++ '\n' :: indentLines indent true t ++
      if t.getLast?.any isBreak then [] else ['\n']

/-- A text, with the end of its line. -/
def writeText (indent : Nat) (t : Text) : Text := writeAs (form t) indent t

/-- A character, which is always quoted, with the end of its line. -/
def writeCharacter (indent : Nat) (c : Char) : Text :=
  writeAs (quotedForm [c]) indent [c]

end PageShell.Yaml
