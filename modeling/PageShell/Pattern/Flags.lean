import PageShell.Pattern.Basic

/-!
# Flags of a pattern

Flags change how the text of a pattern is read and what its parts mean. They are set and cleared
in front of a group or for the rest of one.
-/

namespace PageShell.Pattern

/-- The flags in force at a place of a pattern's text. -/
structure Flags where
  /-- Letters match their case variants. -/
  ignoreCase : Bool := false
  /-- `^` and `$` match at the ends of lines. -/
  multiLine : Bool := false
  /-- The dot matches line ends too. -/
  dotAll : Bool := false
  /-- Repetitions are lazy unless marked. -/
  swapGreed : Bool := false
  /-- Classes and word boundaries range over all characters, not only ASCII. -/
  unicode : Bool := true
  /-- A carriage return ends a line. -/
  crlf : Bool := false
  /-- Blanks and comments in the pattern are skipped. -/
  extended : Bool := false
  deriving DecidableEq, Repr

/-- The letters that name the flags. -/
inductive Flag
  | ignoreCase
  | multiLine
  | dotAll
  | swapGreed
  | unicode
  | crlf
  | extended
  deriving DecidableEq, Repr

namespace Flag

/-- The flag with a given letter. -/
def ofLetter? : Char → Option Flag
  | 'i' => some ignoreCase
  | 'm' => some multiLine
  | 's' => some dotAll
  | 'U' => some swapGreed
  | 'u' => some unicode
  | 'R' => some crlf
  | 'x' => some extended
  | _ => none

end Flag

namespace Flags

/-- The flags with one of them set or cleared. -/
def set (flags : Flags) (value : Bool) : Flag → Flags
  | .ignoreCase => { flags with ignoreCase := value }
  | .multiLine => { flags with multiLine := value }
  | .dotAll => { flags with dotAll := value }
  | .swapGreed => { flags with swapGreed := value }
  | .unicode => { flags with unicode := value }
  | .crlf => { flags with crlf := value }
  | .extended => { flags with extended := value }

/-! ## Sets of characters under flags -/

/-- The ASCII characters. -/
def ascii : CharSet := .ranges [(0, 0x7F)]

/-- A set together with the case variants of its members, if case is ignored. -/
def fold (flags : Flags) (s : CharSet) : CharSet :=
  if !flags.ignoreCase then s
  else if flags.unicode then .folded s
  else .inter (.folded s) ascii

/-- The characters outside a set. Without `unicode` there is no such set, since it would have
bytes in it that are not characters. -/
def complement? (flags : Flags) (s : CharSet) : Option CharSet :=
  if flags.unicode then some (.compl s) else none

/-- A set or, if `negated`, its complement. -/
def negate? (flags : Flags) (negated : Bool) (s : CharSet) : Option CharSet :=
  if negated then flags.complement? s else some s

/-- The decimal digits. -/
def digit (flags : Flags) : CharSet :=
  if flags.unicode then .digit else .ranges [(0x30, 0x39)]

/-- The blank characters. -/
def space (flags : Flags) : CharSet :=
  if flags.unicode then .space else .ranges [(0x9, 0xD), (0x20, 0x20)]

/-- The word characters. -/
def word (flags : Flags) : CharSet :=
  if flags.unicode then .word
  else .ranges [(0x30, 0x39), (0x41, 0x5A), (0x5F, 0x5F), (0x61, 0x7A)]

/-- The characters that the dot matches. -/
def dot? (flags : Flags) : Option CharSet :=
  if flags.dotAll then flags.complement? .empty
  else if flags.crlf then flags.complement? (.ranges [(0xA, 0xA), (0xD, 0xD)])
  else flags.complement? (.single '\n')

/-- The set of the characters that a literal one matches. Without `unicode` only an ASCII
character has case variants that could be looked for. -/
def literal? (flags : Flags) (c : Char) : Option CharSet :=
  if flags.ignoreCase && !flags.unicode && c.toNat > 0x7F then none
  else some (flags.fold (.single c))

/-! ## Places under flags -/

/-- What `^` means. -/
def caret (flags : Flags) : Place :=
  if flags.multiLine then .lineStart flags.crlf else .textStart

/-- What `$` means. -/
def dollar (flags : Flags) : Place :=
  if flags.multiLine then .lineEnd flags.crlf else .textEnd

/-! ## Skipped text -/

/-- What follows the blanks and comments at the start of a text, where `inComment` says that the
text starts within a comment. -/
def skipRemarks (inComment : Bool) : Text → Text
  | [] => []
  | c :: rest =>
    if inComment then skipRemarks (c != '\n') rest
    else if Unicode.isBlank c then skipRemarks false rest
    else if c = '#' then skipRemarks true rest
    else c :: rest

/-- What is left of a pattern's text once the parts to skip at its start are skipped. -/
def skip (flags : Flags) (t : Text) : Text :=
  if flags.extended then skipRemarks false t else t

end Flags

end PageShell.Pattern
