import PageShell.Text.Blank
import PageShell.Unicode.WordCharacter
import PageShell.Unicode.DecimalDigit
import PageShell.Unicode.CaseFolding

/-!
# Patterns

A pattern describes parts of a text. It is built from sets of characters and from conditions on
a place in the text by sequence, choice and repetition. A choice prefers its first branch, and a
repetition prefers more rounds (if it is greedy) or fewer.
-/

namespace PageShell

/-! ## Sets of characters -/

/-- A set of characters, as an expression over ranges of code points. -/
inductive CharSet
  | ranges (rs : List Unicode.Range)
  | union (s t : CharSet)
  | inter (s t : CharSet)
  | diff (s t : CharSet)
  | compl (s : CharSet)
  /-- The characters that have a case variant in `s`. -/
  | folded (s : CharSet)
  deriving DecidableEq, Repr

namespace CharSet

/-- Whether the character with code point `n` is in the set. -/
def mem : CharSet → Nat → Bool
  | ranges rs, n => Unicode.inRanges rs n
  | union s t, n => s.mem n || t.mem n
  | inter s t, n => s.mem n && t.mem n
  | diff s t, n => s.mem n && !t.mem n
  | compl s, n => !s.mem n
  | folded s, n => (Unicode.caseVariants n).any s.mem

/-- The set of one character. -/
def single (c : Char) : CharSet := ranges [(c.toNat, c.toNat)]

/-- The empty set. -/
def empty : CharSet := ranges []

/-- The set of all characters. -/
def any : CharSet := compl empty

/-- The characters in one of the sets or the other, but not in both. -/
def symmDiff (s t : CharSet) : CharSet := diff (union s t) (inter s t)

/-- The blank characters. -/
def space : CharSet := ranges Unicode.whiteSpace

/-- The word characters. -/
def word : CharSet := ranges Unicode.wordCharacters

/-- The decimal digits. -/
def digit : CharSet := ranges Unicode.decimalDigits

end CharSet

/-! ## Conditions on a place -/

/-- A condition on a place between two characters of a text. -/
inductive Place
  /-- The start of the text. -/
  | textStart
  /-- The end of the text. -/
  | textEnd
  /-- The start of a line. With `crlf`, a carriage return ends a line too, alone or together
  with the line feed behind it. -/
  | lineStart (crlf : Bool)
  /-- The end of a line, under the same rule. -/
  | lineEnd (crlf : Bool)
  /-- A word, by its set of characters, has its start or its end here. -/
  | wordBoundary (word : CharSet)
  /-- Neither start nor end of a word. -/
  | notWordBoundary (word : CharSet)
  | wordStart (word : CharSet)
  | wordEnd (word : CharSet)
  /-- What comes before is not part of a word. -/
  | wordStartHalf (word : CharSet)
  /-- What comes after is not part of a word. -/
  | wordEndHalf (word : CharSet)
  deriving DecidableEq, Repr

/-- Whether the condition holds between the characters `before` and `after`, of which one or
both are missing at the ends of the text. -/
def Place.holds (before after : Option Char) : Place → Bool
  | textStart => before.isNone
  | textEnd => after.isNone
  | lineStart false => before.isNone || before == some '\n'
  | lineEnd false => after.isNone || after == some '\n'
  | lineStart true =>
    before.isNone || before == some '\n' || (before == some '\r' && after != some '\n')
  | lineEnd true =>
    after.isNone || after == some '\r' || (after == some '\n' && before != some '\r')
  | wordBoundary w => inWord w before != inWord w after
  | notWordBoundary w => inWord w before == inWord w after
  | wordStart w => !inWord w before && inWord w after
  | wordEnd w => inWord w before && !inWord w after
  | wordStartHalf w => !inWord w before
  | wordEndHalf w => !inWord w after
where
  /-- Whether there is a character and it belongs to a word. -/
  inWord (w : CharSet) (c : Option Char) : Bool := c.any fun c => w.mem c.toNat

/-! ## Patterns -/

/-- How often a repetition goes round: at least `min` times, and at most `max` times if there is
such a limit. -/
structure Rounds where
  min : Nat
  max : Option Nat
  greedy : Bool
  deriving DecidableEq, Repr

/-- The description of a part of a text. -/
inductive Pattern
  /-- Nothing, anywhere. -/
  | nothing
  /-- One character of a set. -/
  | one (s : CharSet)
  /-- Nothing, at a place where a condition holds. -/
  | place (p : Place)
  | seq (p q : Pattern)
  | choice (p q : Pattern)
  /-- A run of characters of a set. -/
  | run (rounds : Rounds) (s : CharSet)
  | loop (rounds : Rounds) (p : Pattern)
  deriving DecidableEq, Repr

namespace Pattern

/-- A pattern several times over. Repeating a single character is a run. -/
def times (rounds : Rounds) : Pattern → Pattern
  | one s => run rounds s
  | p => loop rounds p

/-- Patterns one after the other. -/
def sequence (ps : List Pattern) : Pattern :=
  match ps with
  | [] => nothing
  | p :: ps => ps.foldl seq p

/-- A choice among patterns, the first preferred. -/
def choices : List Pattern → Pattern
  | [] => nothing
  | [p] => p
  | p :: ps => choice p (choices ps)

end Pattern

end PageShell
