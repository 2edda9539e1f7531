import PageShell.Text.Basic

/-!
# Decimal numbers

A decimal number is an integer times a power of ten. Formats that hold numbers in double precision
have no finite value for those that are too large.
-/

namespace PageShell

/-- The number `mantissa * 10 ^ exponent`. -/
structure Decimal where
  mantissa : Nat
  exponent : Int
  deriving DecidableEq, Repr

namespace Decimal

/-- The least number that rounds to infinity in double precision: half a unit in the last place
above the greatest finite one. -/
def overflow : Nat := Nat.pow 2 1024 - Nat.pow 2 970

/-- Whether the number rounds to a finite one in double precision. Numbers of more than 309 digits
do not, numbers of fewer do, and the others are compared with the bound. -/
def isFinite (d : Decimal) : Bool :=
  let digits : Int := (Nat.toDigits 10 d.mantissa).length + d.exponent
  if d.mantissa = 0 then true
  else if digits > 309 then false
  else if digits < 309 then true
  else d.mantissa * Nat.pow 10 d.exponent.toNat < overflow * Nat.pow 10 (-d.exponent).toNat

/-- The exponent that a text is, with its mark and sign. -/
def exponent? : Text → Option Int
  | [] => some 0
  | e :: rest =>
    if e == 'e' || e == 'E' then
      let (negative, ds) :=
        match rest with
        | '+' :: ds => (false, ds)
        | '-' :: ds => (true, ds)
        | ds => (false, ds)
      if ds.isEmpty || !ds.all Char.isDigit then none
      else
        let n : Int := Nat.ofDigitChars 10 ds 0
        some (if negative then -n else n)
    else none

/-- The number that a text without sign is: digits with at most one point in them, at least one
of them a digit, and an exponent. -/
def read? (t : Text) : Option Decimal := do
  let whole := t.takeWhile Char.isDigit
  let rest := t.dropWhile Char.isDigit
  let (fraction, rest) :=
    match rest with
    | '.' :: rest => (rest.takeWhile Char.isDigit, rest.dropWhile Char.isDigit)
    | rest => ([], rest)
  if whole.isEmpty && fraction.isEmpty then none
  else
    return ⟨Nat.ofDigitChars 10 (whole ++ fraction) 0, (← exponent? rest) - fraction.length⟩

end Decimal

end PageShell
