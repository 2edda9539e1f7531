import PageShell.Data
import PageShell.Digits

/-!
# Numbers, truth values and dates in TOML

A value that is neither a string nor a list nor a table is a word without blanks, except that
a blank may stand between a date and a time.

Results:

* `scalar?_true`, `scalar?_false`: the words for the truth values.
-/

namespace PageShell.Toml

/-! ## Digits -/

/-- The text without a sign at its start, and whether the sign was a minus. -/
def dropSign : Text → Bool × Text
  | '+' :: rest => (false, rest)
  | '-' :: rest => (true, rest)
  | t => (false, t)

/-- Whether a text consists of digits, with single underscores between some of them. -/
def areDigits (isDigit : Char → Bool) : Text → Bool
  | [] => false
  | [c] => isDigit c
  | c :: '_' :: rest => isDigit c && areDigits isDigit rest
  | c :: rest => isDigit c && areDigits isDigit rest

/-- The number that digits of a base write. Underscores do not count. -/
def digitsValue (base : Nat) (ds : Text) : Nat :=
  Digits.ofValues base (ds.filterMap (Digits.value? base))

/-- Whether a text is a decimal number without sign or needless zeros. -/
def isWhole (t : Text) : Bool := t == ['0'] || (areDigits Char.isDigit t && t.head? != some '0')

/-! ## Numbers -/

/-- Whether a number is one that can be handled: it takes at most 128 bits. -/
def isInRange (n : Int) : Bool :=
  if n < 0 then n.natAbs ≤ Nat.pow 2 127 else n.natAbs < Nat.pow 2 128

/-- An integer, decimal or with a base. -/
def integer? (t : Text) : Option Data := do
  let n : Int ←
    match t with
    | '0' :: 'x' :: ds =>
      if areDigits (fun c => c.isDigit || ('a' ≤ c && c ≤ 'f') || ('A' ≤ c && c ≤ 'F')) ds then
        some (digitsValue 16 ds : Int) else none
    | '0' :: 'o' :: ds =>
      if areDigits (fun c => '0' ≤ c && c ≤ '7') ds then some (digitsValue 8 ds : Int) else none
    | '0' :: 'b' :: ds =>
      if areDigits (fun c => c == '0' || c == '1') ds then some (digitsValue 2 ds : Int) else none
    | t =>
      let (negative, whole) := dropSign t
      if isWhole whole then
        some (if negative then -(digitsValue 10 whole : Int) else (digitsValue 10 whole : Int))
      else none
  if isInRange n then some (.integer n) else none

/-- Whether a text is an exponent with its mark. -/
def isExponent : Text → Bool
  | [] => false
  | e :: rest => (e == 'e' || e == 'E') && areDigits Char.isDigit (dropSign rest).2

/-- A number with a fraction, an exponent or both, or one that is no finite number. -/
def decimal? (t : Text) : Option Data :=
  let (_, body) := dropSign t
  let whole := body.takeWhile fun c => c.isDigit || c == '_'
  let rest := body.dropWhile fun c => c.isDigit || c == '_'
  let isNumber :=
    isWhole whole &&
      match rest with
      | '.' :: rest =>
        let fraction := rest.takeWhile fun c => c.isDigit || c == '_'
        let rest := rest.dropWhile fun c => c.isDigit || c == '_'
        areDigits Char.isDigit fraction && (rest.isEmpty || isExponent rest)
      | rest => isExponent rest
  if isNumber || body == ['i', 'n', 'f'] || body == ['n', 'a', 'n'] then some (.decimal t) else none

/-! ## Dates and times -/

/-- The number that exactly so many decimal digits at the start of a text write, and the rest. -/
def takeNumber? (count : Nat) (t : Text) : Option (Nat × Text) :=
  let ds := t.take count
  if ds.length = count ∧ ds.all Char.isDigit then some (digitsValue 10 ds, t.drop count) else none

/-- A text without a given character at its start. -/
def dropCharacter? (c : Char) : Text → Option Text
  | [] => none
  | x :: rest => if x = c then some rest else none

/-- The number of days of a month. -/
def daysInMonth (year month : Nat) : Nat :=
  if month == 2 then if year % 4 == 0 && (year % 100 != 0 || year % 400 == 0) then 29 else 28
  else if month == 4 || month == 6 || month == 9 || month == 11 then 30
  else 31

/-- Takes a date off the start of a text. -/
def date? (t : Text) : Option Text := do
  let (year, t) ← takeNumber? 4 t
  let (month, t) ← takeNumber? 2 (← dropCharacter? '-' t)
  let (day, t) ← takeNumber? 2 (← dropCharacter? '-' t)
  if 1 ≤ month ∧ month ≤ 12 ∧ 1 ≤ day ∧ day ≤ daysInMonth year month then some t else none

/-- Takes a time of day off the start of a text. -/
def time? (t : Text) : Option Text := do
  let (hour, t) ← takeNumber? 2 t
  let (minute, t) ← takeNumber? 2 (← dropCharacter? ':' t)
  let (second, t) ← takeNumber? 2 (← dropCharacter? ':' t)
  if hour ≤ 23 ∧ minute ≤ 59 ∧ second ≤ 60 then
    match t with
    | '.' :: rest =>
      if (rest.takeWhile Char.isDigit).isEmpty then none else some (rest.dropWhile Char.isDigit)
    | t => some t
  else none

/-- Whether a text is the offset of a time from universal time. -/
def isOffset (t : Text) : Bool :=
  match t with
  | ['Z'] => true
  | ['z'] => true
  | sign :: t =>
    (sign == '+' || sign == '-') &&
      (do
        let (hour, t) ← takeNumber? 2 t
        let (minute, t) ← takeNumber? 2 (← dropCharacter? ':' t)
        return decide (hour ≤ 23) && decide (minute ≤ 59) && t.isEmpty).getD false
  | [] => false

/-- A date, a time of day, or both. -/
def moment? (t : Text) : Option Data := do
  match date? t with
  | some [] => some (.moment t)
  | some (separator :: rest) =>
    if separator == 'T' || separator == 't' || separator == ' ' then
      let rest ← time? rest
      if rest.isEmpty || isOffset rest then some (.moment t) else none
    else none
  | none =>
    let rest ← time? t
    if rest.isEmpty then some (.moment t) else none

/-! ## Scalars -/

/-- The value that a word stands for. -/
def scalar? (t : Text) : Option Data :=
  if t == "true".toList then some (.boolean true)
  else if t == "false".toList then some (.boolean false)
  else (integer? t).or ((decimal? t).or (moment? t))

theorem scalar?_true : scalar? "true".toList = some (.boolean true) := rfl

theorem scalar?_false : scalar? "false".toList = some (.boolean false) := rfl

/-- Whether a character may stand in a word. -/
def isWordCharacter (c : Char) : Bool :=
  c.isAlphanum || c == '+' || c == '-' || c == '_' || c == '.' || c == ':'

/-- The word at the start of a text and the rest. A date is continued behind a blank that a digit
follows. -/
def word (t : Text) : Text × Text :=
  let front := t.takeWhile isWordCharacter
  match t.dropWhile isWordCharacter with
  | ' ' :: c :: rest =>
    if date? front == some [] && c.isDigit then
      (front ++ ' ' :: (c :: rest).takeWhile isWordCharacter, (c :: rest).dropWhile isWordCharacter)
    else (front, ' ' :: c :: rest)
  | rest => (front, rest)

end PageShell.Toml
