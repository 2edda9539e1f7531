import PageShell.Text.Basic

/-!
# Digits

The notations that are read and written here share their digits: escapes in strings and in
patterns, and numbers with and without the mark of a base. A letter of either case is a digit from
ten on.

Results:

* `hexValue?_hexDigit`, `hexValue?_upperDigit`: a hexadecimal digit is read as the number that it
  was written for.
* `read?_lastTwo`: so is a number of at most two digits behind two zeros.
-/

namespace PageShell.Digits

/-! ## Reading -/

/-- The value of a digit of a base, if it is one. -/
def value? (base : Nat) (c : Char) : Option Nat :=
  let n :=
    if c.isDigit then c.toNat - '0'.toNat
    else if c.isLower then c.toNat - 'a'.toNat + 10
    else if c.isUpper then c.toNat - 'A'.toNat + 10
    else base
  if n < base then some n else none

/-- The value of a hexadecimal digit. -/
abbrev hexValue? : Char → Option Nat := value? 16

/-- The number that digits of a base have, given their values, the most significant first. -/
def ofValues (base : Nat) (values : List Nat) : Nat := values.foldl (fun n d => base * n + d) 0

/-- The number that digits of a base write, unless one of them is no digit. -/
def read? (base : Nat) (digits : Text) : Option Nat :=
  (digits.mapM (value? base)).map (ofValues base)

/-- The character with a given code point. -/
def character? (n : Nat) : Option Char :=
  if h : n.isValidChar then some (Char.ofNatAux n h) else none

theorem character?_toNat (c : Char) : character? c.toNat = some c := dif_pos c.valid

/-! ## Writing -/

/-- The hexadecimal digit of a number less than sixteen, with letters in lower case. -/
def hexDigit (n : Nat) : Char := n.digitChar

/-- The hexadecimal digit of a number less than sixteen, with letters in upper case. -/
def upperDigit (n : Nat) : Char := (hexDigit n).toUpper

theorem hexValue?_hexDigit : ∀ n < 16, hexValue? (hexDigit n) = some n := by decide

theorem hexValue?_upperDigit : ∀ n < 16, hexValue? (upperDigit n) = some n := by decide

/-- A number of at most two digits is read from them behind two zeros. -/
theorem read?_lastTwo {digit : Nat → Char} (hdigit : ∀ n < 16, hexValue? (digit n) = some n)
    {n : Nat} (hn : n < 256) :
    read? 16 ['0', '0', digit (n / 16), digit (n % 16)] = some n := by
  have hzero : hexValue? '0' = some 0 := rfl
  have hhigh := hdigit (n / 16) (by omega)
  have hlow := hdigit (n % 16) (by omega)
  have hvalues : ['0', '0', digit (n / 16), digit (n % 16)].mapM hexValue? =
      some [0, 0, n / 16, n % 16] := by
    simp [hzero, hhigh, hlow]
  have hsum : ofValues 16 [0, 0, n / 16, n % 16] = n := by
    simp only [ofValues, List.foldl_cons, List.foldl_nil]
    omega
  rw [read?, hvalues, Option.map_some, hsum]

end PageShell.Digits
