import PageShell.Toml.Quoting

/-!
# Reading TOML strings

Each reader takes a string, whose opening quotes have been read, off the front of a text and
gives it back with the rest.
-/

namespace PageShell.Toml

/-! ## Characters -/

/-- Whether a character may stand in a string on one line: no control character but the tab. -/
def isPlainInLine (c : Char) : Bool := !isControl c && c != '\n'

/-- Whether a character may stand in a string on several lines. -/
def isPlain (c : Char) : Bool := !isControl c

/-- The character whose code point some hexadecimal digits write. -/
def codePoint? (digits : Text) : Option Char := (Digits.read? 16 digits).bind Digits.character?

/-- The character that a letter behind a backslash stands for. -/
def unescape? : Char → Option Char
  | 'b' => some '\x08'
  | 't' => some '\t'
  | 'n' => some '\n'
  | 'f' => some '\x0c'
  | 'r' => some '\r'
  | '"' => some '"'
  | '\\' => some '\\'
  | _ => none

/-- One more character in front of what has been read. -/
def prepend (c : Char) : Text × Text → Text × Text := fun (cs, rest) => (c :: cs, rest)

/-! ## Strings on one line -/

/-- Reads a basic string. -/
def basic? : Text → Option (Text × Text)
  | [] => none
  | '"' :: rest => some ([], rest)
  | '\\' :: 'u' :: a :: b :: c :: d :: rest => do
    let x ← codePoint? [a, b, c, d]
    (basic? rest).map (prepend x)
  | '\\' :: 'U' :: a :: b :: c :: d :: e :: f :: g :: h :: rest => do
    let x ← codePoint? [a, b, c, d, e, f, g, h]
    (basic? rest).map (prepend x)
  | '\\' :: e :: rest => do
    let x ← unescape? e
    (basic? rest).map (prepend x)
  | c :: rest => if isPlainInLine c && c != '\\' then (basic? rest).map (prepend c) else none

/-- Reads a literal string. -/
def literal? : Text → Option (Text × Text)
  | [] => none
  | '\'' :: rest => some ([], rest)
  | c :: rest => if isPlainInLine c then (literal? rest).map (prepend c) else none

/-! ## Strings on several lines -/

/-- A text without a line break at its start. -/
def dropBreak : Text → Text
  | '\n' :: rest => rest
  | '\r' :: '\n' :: rest => rest
  | t => t

/-- Up to two quotes at the start of a text, which belong to a string that the three quotes before
them close, and the rest. -/
def closingQuotes (quote : Char) : Text → Text × Text
  | a :: b :: rest =>
    if a = quote ∧ b = quote then ([a, b], rest)
    else if a = quote then ([a], b :: rest)
    else ([], a :: b :: rest)
  | [a] => if a = quote then ([a], []) else ([], [a])
  | [] => ([], [])

/-- Whether nothing but blanks stands before the next line break. -/
def breaksLine (t : Text) : Bool :=
  match t.dropWhile fun c => c == ' ' || c == '\t' with
  | '\n' :: _ => true
  | '\r' :: '\n' :: _ => true
  | _ => false

/-- Reads a basic string on several lines. A backslash at the end of a line joins it with the next
text that is not blank; `joining` says that one has just been read. -/
def multiBasic? (joining : Bool) : Text → Option (Text × Text)
  | [] => none
  | '"' :: '"' :: '"' :: rest => some (closingQuotes '"' rest)
  | '\\' :: 'u' :: a :: b :: c :: d :: rest => do
    let x ← codePoint? [a, b, c, d]
    (multiBasic? false rest).map (prepend x)
  | '\\' :: 'U' :: a :: b :: c :: d :: e :: f :: g :: h :: rest => do
    let x ← codePoint? [a, b, c, d, e, f, g, h]
    (multiBasic? false rest).map (prepend x)
  | '\\' :: e :: rest =>
    if breaksLine (e :: rest) then
      if e = '\r' then
        match rest with
        | _ :: rest => multiBasic? true rest
        | [] => none
      else multiBasic? true rest
    else do
      let x ← unescape? e
      (multiBasic? false rest).map (prepend x)
  | '\r' :: '\n' :: rest =>
    if joining then multiBasic? true rest
    else (multiBasic? false rest).map (prepend '\r' ∘ prepend '\n')
  | c :: rest =>
    if joining && (c == ' ' || c == '\t' || c == '\n') then multiBasic? true rest
    else if isPlain c && c != '\\' then (multiBasic? false rest).map (prepend c)
    else none

/-- Reads a literal string on several lines. -/
def multiLiteral? : Text → Option (Text × Text)
  | [] => none
  | '\'' :: '\'' :: '\'' :: rest => some (closingQuotes '\'' rest)
  | '\r' :: '\n' :: rest => (multiLiteral? rest).map (prepend '\r' ∘ prepend '\n')
  | c :: rest => if isPlain c then (multiLiteral? rest).map (prepend c) else none

/-! ## Any string -/

/-- Reads a string on one line. -/
def lineString? : Text → Option (Text × Text)
  | '"' :: rest => basic? rest
  | '\'' :: rest => literal? rest
  | _ => none

/-- Reads a string of any form. -/
def string? : Text → Option (Text × Text)
  | '"' :: '"' :: '"' :: rest => multiBasic? false (dropBreak rest)
  | '\'' :: '\'' :: '\'' :: rest => multiLiteral? (dropBreak rest)
  | t => lineString? t

end PageShell.Toml
