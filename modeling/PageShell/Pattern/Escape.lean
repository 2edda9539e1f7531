import PageShell.Digits
import PageShell.Pattern.Flags
import PageShell.Pattern.Property

/-!
# Escapes in patterns

An escape begins with a backslash. It stands for one character, for a set of characters or for
a condition on a place.
-/

namespace PageShell.Pattern

/-- What an escape, or a character of a pattern that needs none, stands for. -/
inductive Atom
  | literal (c : Char)
  | set (s : CharSet)
  | place (p : Place)
  deriving DecidableEq, Repr

namespace Escape

/-! ## Hexadecimal escapes -/

/-- Reads a given number of hexadecimal digits. -/
def hexDigits? (flags : Flags) : Nat → Text → Option (List Nat × Text)
  | 0, t => some ([], t)
  | _ + 1, [] => none
  | n + 1, c :: rest => do
    let d ← Digits.hexValue? c
    let (ds, rest) ← hexDigits? flags n (flags.skip rest)
    return (d :: ds, rest)

/-- Reads hexadecimal digits up to a closing brace, with fuel for the length of the text. -/
def bracedDigits? (flags : Flags) : Nat → Text → Option (List Nat × Text)
  | 0, _ => none
  | _ + 1, [] => none
  | fuel + 1, c :: rest =>
    if c = '\x7d' then some ([], flags.skip rest)
    else do
      let d ← Digits.hexValue? c
      let (ds, rest) ← bracedDigits? flags fuel (flags.skip rest)
      return (d :: ds, rest)

/-- Reads the character that `\x`, `\u` or `\U` names, by two, four or eight digits or by any
number of them in braces. Without `unicode`, two digits name a byte, and only an ASCII byte is
a character. -/
def hex? (flags : Flags) (count : Nat) (t : Text) : Option (Char × Text) :=
  match flags.skip t with
  | '\x7b' :: rest => do
    let (ds, rest) ← bracedDigits? flags rest.length.succ (flags.skip rest)
    if ds.isEmpty then none
    else return (← Digits.character? (Digits.ofValues 16 ds), rest)
  | t => do
    let (ds, rest) ← hexDigits? flags count t
    let c ← Digits.character? (Digits.ofValues 16 ds)
    if count == 2 && !flags.unicode && c.toNat > 0x7F then none
    else return (c, rest)

/-! ## Classes by property -/

/-- What stands before and behind the first separator in a text. -/
def cut? (separator : Text) : Text → Option (Text × Text)
  | [] => none
  | c :: rest =>
    if separator.isPrefixOf (c :: rest) then some ([], (c :: rest).drop separator.length)
    else (cut? separator rest).map fun (front, back) => (c :: front, back)

/-- The set that a property query names, and whether its complement is meant. -/
def query? (query : Text) : Option (CharSet × Bool) :=
  match cut? ['!', '='] query with
  | some (name, value) => (Property.valued? name value).map (·, true)
  | none =>
    match (cut? [':'] query).or (cut? ['='] query) with
    | some (name, value) => (Property.valued? name value).map (·, false)
    | none => (Property.named? query).map (·, false)

/-- Reads the rest of a braced property query, with fuel for the length of the text. -/
def bracedQuery? (flags : Flags) : Nat → Text → Option (Text × Text)
  | 0, _ => none
  | _ + 1, [] => none
  | fuel + 1, c :: rest =>
    if c = '\x7d' then some ([], rest)
    else do
      let (query, rest) ← bracedQuery? flags fuel (flags.skip rest)
      return (c :: query, rest)

/-- Reads the set that follows `\p`, or `\P` if `negated`. -/
def property? (flags : Flags) (negated : Bool) (t : Text) : Option (CharSet × Text) := do
  let (query, rest) ←
    match flags.skip t with
    | [] => none
    | '\\' :: _ => none
    | '\x7b' :: rest => bracedQuery? flags rest.length.succ (flags.skip rest)
    | c :: rest => some ([c], flags.skip rest)
  if !flags.unicode then none
  else
    let (s, unequal) ← query? query
    return (← flags.negate? (negated != unequal) (flags.fold s), rest)

/-! ## Word boundaries -/

/-- Reads letters and hyphens. -/
def wordPlaceName (flags : Flags) : Nat → Text → Text × Text
  | 0, t => ([], t)
  | _ + 1, [] => ([], [])
  | fuel + 1, c :: rest =>
    if c.isAlpha || c == '-' then
      let (name, rest) := wordPlaceName flags fuel (flags.skip rest)
      (c :: name, rest)
    else ([], c :: rest)

/-- The place that a name in braces behind `\b` describes. -/
def wordPlace? (word : CharSet) (name : Text) : Option Place :=
  match String.ofList name with
  | "start" => some (.wordStart word)
  | "end" => some (.wordEnd word)
  | "start-half" => some (.wordStartHalf word)
  | "end-half" => some (.wordEndHalf word)
  | _ => none

/-- Reads what follows `\b`. A brace with anything but a letter or a hyphen behind it belongs to
a repetition. -/
def boundary? (flags : Flags) (t : Text) : Option (Place × Text) :=
  match t with
  | '\x7b' :: rest =>
    match flags.skip rest with
    | [] => none
    | c :: rest =>
      if !(c.isAlpha || c == '-') then some (.wordBoundary flags.word, t)
      else
        match wordPlaceName flags (c :: rest).length.succ (c :: rest) with
        | (name, '\x7d' :: rest) => (wordPlace? flags.word name).map (·, rest)
        | _ => none
  | _ => some (.wordBoundary flags.word, t)

/-! ## All escapes -/

/-- Whether a backslash before a character makes it stand for itself. -/
def isEscapable (c : Char) : Bool :=
  c.toNat < 0x80 && !c.isAlphanum && c != '<' && c != '>'

/-- Reads what follows a backslash. -/
def read? (flags : Flags) : Text → Option (Atom × Text)
  | [] => none
  | 'x' :: rest => (hex? flags 2 rest).map fun (c, rest) => (.literal c, rest)
  | 'u' :: rest => (hex? flags 4 rest).map fun (c, rest) => (.literal c, rest)
  | 'U' :: rest => (hex? flags 8 rest).map fun (c, rest) => (.literal c, rest)
  | 'p' :: rest => (property? flags false rest).map fun (s, rest) => (.set s, rest)
  | 'P' :: rest => (property? flags true rest).map fun (s, rest) => (.set s, rest)
  | 'd' :: rest => some (.set flags.digit, rest)
  | 's' :: rest => some (.set flags.space, rest)
  | 'w' :: rest => some (.set flags.word, rest)
  | 'D' :: rest => (flags.complement? flags.digit).map (.set ·, rest)
  | 'S' :: rest => (flags.complement? flags.space).map (.set ·, rest)
  | 'W' :: rest => (flags.complement? flags.word).map (.set ·, rest)
  | 'a' :: rest => some (.literal '\x07', rest)
  | 'f' :: rest => some (.literal '\x0c', rest)
  | 't' :: rest => some (.literal '\t', rest)
  | 'n' :: rest => some (.literal '\n', rest)
  | 'r' :: rest => some (.literal '\r', rest)
  | 'v' :: rest => some (.literal '\x0b', rest)
  | 'A' :: rest => some (.place .textStart, rest)
  | 'z' :: rest => some (.place .textEnd, rest)
  | 'b' :: rest => (boundary? flags rest).map fun (p, rest) => (.place p, rest)
  | 'B' :: rest => some (.place (.notWordBoundary flags.word), rest)
  | '<' :: rest => some (.place (.wordStart flags.word), rest)
  | '>' :: rest => some (.place (.wordEnd flags.word), rest)
  | c :: rest => if isEscapable c then some (.literal c, rest) else none

end Escape

end PageShell.Pattern
