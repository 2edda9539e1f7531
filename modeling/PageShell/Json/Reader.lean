import PageShell.Data
import PageShell.Digits

/-!
# Reading JSON

A document is a single value with blanks around it. Every reader takes what it reads off the
front of the text and gives it back with the rest.
-/

namespace PageShell.Json

-- Bytes that stand in a string by their digits are read with the digits of its escapes.
export Digits (hexValue?)

/-! ## Blanks -/

/-- The characters that may stand between tokens. -/
def isBlank (c : Char) : Bool := c == ' ' || c == '\t' || c == '\n' || c == '\r'

/-- A text without the blanks at its start. -/
def skipBlanks (t : Text) : Text := t.dropWhile isBlank

/-! ## Strings -/

/-- The character that a letter behind a backslash stands for. -/
def unescape? : Char → Option Char
  | '"' => some '"'
  | '\\' => some '\\'
  | '/' => some '/'
  | 'b' => some '\x08'
  | 'f' => some '\x0c'
  | 'n' => some '\n'
  | 'r' => some '\r'
  | 't' => some '\t'
  | _ => none

/-- Reads a string whose opening quote has been read. A character beyond the first plane may be
written as two escaped surrogates. -/
def stringBody? : Text → Option (Text × Text)
  | [] => none
  | '"' :: rest => some ([], rest)
  | '\\' :: 'u' :: a :: b :: c :: d :: rest => do
    let n ← Digits.read? 16 [a, b, c, d]
    if 0xD800 ≤ n ∧ n < 0xDC00 then
      match rest with
      | '\\' :: 'u' :: e :: f :: g :: h :: rest => do
        let m ← Digits.read? 16 [e, f, g, h]
        if 0xDC00 ≤ m ∧ m < 0xE000 then
          let (cs, rest) ← stringBody? rest
          return (Char.ofNat (0x10000 + (n - 0xD800) * 0x400 + (m - 0xDC00)) :: cs, rest)
        else none
      | _ => none
    else if 0xDC00 ≤ n ∧ n < 0xE000 then none
    else
      let (cs, rest) ← stringBody? rest
      return (Char.ofNat n :: cs, rest)
  | '\\' :: e :: rest => do
    let c ← unescape? e
    let (cs, rest) ← stringBody? rest
    return (c :: cs, rest)
  | c :: rest =>
    if c.toNat < 0x20 then none
    else (stringBody? rest).map fun (cs, rest) => (c :: cs, rest)

/-! ## Numbers -/

/-- The digits at the start of a text, and the rest. -/
def spanDigits (t : Text) : Text × Text := t.span Char.isDigit

/-- Reads the fraction of a number, if there is one. -/
def fraction? : Text → Option (Text × Text)
  | '.' :: rest =>
    match spanDigits rest with
    | ([], _) => none
    | (ds, rest) => some ('.' :: ds, rest)
  | t => some ([], t)

/-- Reads the exponent of a number, if there is one. -/
def exponent? : Text → Option (Text × Text)
  | [] => some ([], [])
  | e :: rest =>
    if e == 'e' || e == 'E' then
      let (sign, rest) :=
        match rest with
        | '+' :: rest => (['+'], rest)
        | '-' :: rest => (['-'], rest)
        | rest => ([], rest)
      match spanDigits rest with
      | ([], _) => none
      | (ds, rest) => some (e :: sign ++ ds, rest)
    else some ([], e :: rest)

/-- Reads a number. It is an integer if it has neither fraction nor exponent; the negative zero is
not an integer. -/
def number? (t : Text) : Option (Data × Text) := do
  let (sign, t) :=
    match t with
    | '-' :: rest => (['-'], rest)
    | t => ([], t)
  let (whole, t) := spanDigits t
  if whole.isEmpty || (whole.head? == some '0' && whole != ['0']) then none
  else
    let (fraction, t) ← fraction? t
    let (exponent, t) ← exponent? t
    if !fraction.isEmpty || !exponent.isEmpty || (!sign.isEmpty && whole == ['0']) then
      return (.decimal (sign ++ whole ++ fraction ++ exponent), t)
    else
      let n : Int := Nat.ofDigitChars 10 whole 0
      return (.integer (if sign.isEmpty then n else -n), t)

/-! ## Values -/

/-- A text without a given word at its start. -/
def dropWord? (word : String) (t : Text) : Option Text :=
  if word.toList.isPrefixOf t then some (t.drop word.toList.length) else none

/-- A string behind blanks. -/
def quoted? (t : Text) : Option (Text × Text) :=
  match skipBlanks t with
  | '"' :: rest => stringBody? rest
  | _ => none

/-- A colon behind blanks. -/
def colon? (t : Text) : Option Text :=
  match skipBlanks t with
  | ':' :: rest => some rest
  | _ => none

mutual

/-- Reads a value behind blanks. -/
def value? : Nat → Text → Option (Data × Text)
  | 0, _ => none
  | fuel + 1, t =>
    match skipBlanks t with
    | [] => none
    | 'n' :: rest => (dropWord? "ull" rest).map (.null, ·)
    | 't' :: rest => (dropWord? "rue" rest).map (.boolean true, ·)
    | 'f' :: rest => (dropWord? "alse" rest).map (.boolean false, ·)
    | '"' :: rest => (stringBody? rest).map fun (s, rest) => (.text (String.ofList s), rest)
    | '[' :: rest =>
      match skipBlanks rest with
      | ']' :: rest => some (.list [], rest)
      | rest => (items? fuel rest).map fun (items, rest) => (.list items, rest)
    | '\x7b' :: rest =>
      match skipBlanks rest with
      | '\x7d' :: rest => some (.record [], rest)
      | rest => (fields? fuel rest).map fun (fields, rest) => (.record fields, rest)
    | t => number? t

/-- Reads one or more items of a list and the bracket that closes it. -/
def items? : Nat → Text → Option (List Data × Text)
  | 0, _ => none
  | fuel + 1, t => do
    let (item, t) ← value? fuel t
    match skipBlanks t with
    | ']' :: rest => return ([item], rest)
    | ',' :: rest =>
      let (items, rest) ← items? fuel rest
      return (item :: items, rest)
    | _ => none

/-- Reads one or more fields of a record and the brace that closes it. -/
def fields? : Nat → Text → Option (List (String × Data) × Text)
  | 0, _ => none
  | fuel + 1, t => do
    let (name, t) ← quoted? t
    let (value, t) ← value? fuel (← colon? t)
    match skipBlanks t with
    | '\x7d' :: rest => return ([(String.ofList name, value)], rest)
    | ',' :: rest =>
      let (fields, rest) ← fields? fuel rest
      return ((String.ofList name, value) :: fields, rest)
    | _ => none

end

/-- The value that a document holds. -/
def read? (t : Text) : Option Data := do
  let (d, rest) ← value? (2 * t.length + 2) t
  if (skipBlanks rest).isEmpty then return d else none

end PageShell.Json
