import PageShell.Pattern.Bracket

/-!
# Reading patterns

The text of a pattern is read from left to right. Groups that are open are kept on a stack with
the flags that come back into force when they close.

A text is refused if it breaks the rules of the notation, if it nests deeper than `nestingLimit`
or if the pattern, with its repetitions written out, is larger than `sizeLimit`.

The reader knows less than the notation has. It refuses properties of characters other than general
categories, scripts and the few that `Property.binary?` names: among them ages, script extensions,
break properties, `ID_Start` and `Emoji`. Its two limits are estimates of the room that an automaton
takes. So nothing about pages is stated of this reader alone: it holds of every `PatternReader`,
except where the pattern is the one of the default settings.
-/

namespace PageShell

/-! ## The size of a pattern -/

/-- The room that a set takes in an automaton, in ranges. -/
def CharSet.size : CharSet → Nat
  | ranges rs => rs.length
  | union s t | inter s t | diff s t => s.size + t.size
  | compl s => s.size + 10
  | folded s => 2 * s.size

/-- How often a repetition is written out. -/
def Rounds.copies (rounds : Rounds) : Nat := rounds.max.getD (Nat.max 1 rounds.min)

namespace Pattern

/-- The room that one character of a set takes, in bytes. -/
def stepSize (s : CharSet) : Nat := if s.size ≤ 1 then 32 else 64 * s.size

/-- The room that a pattern takes once its repetitions are written out, in bytes. -/
def size : Pattern → Nat
  | nothing => 0
  | one s => stepSize s
  | place _ => 32
  | seq p q => p.size + q.size
  | choice p q => p.size + q.size + 32
  | run rounds s => rounds.copies * stepSize s
  | loop rounds p => rounds.copies * p.size

namespace Reader

/-- The greatest size of a pattern. -/
def sizeLimit : Nat := 10 * Nat.pow 2 20

/-- How deep groups, repetitions, sequences and choices may be nested in each other. -/
def nestingLimit : Nat := 250

/-! ## Items -/

/-- A finished part of a sequence. -/
structure Item where
  pattern : Pattern
  nesting : Nat := 0
  /-- Whether a repetition may follow. It may not follow a change of flags. -/
  repeatable : Bool := true

namespace Item

/-- The greatest nesting among some items. -/
def deepest (items : List Item) : Nat := (items.map nesting).foldl Nat.max 0

/-- The sequence of some items. -/
def sequence : List Item → Item
  | [] => ⟨nothing, 0, true⟩
  | [item] => item
  | items => ⟨Pattern.sequence (items.map pattern), deepest items + 1, true⟩

/-- The choice among some items. -/
def choice : List Item → Item
  | [] => ⟨nothing, 0, true⟩
  | [item] => item
  | items => ⟨choices (items.map pattern), deepest items + 1, true⟩

/-- An item in a group of its own. -/
def group (item : Item) : Item := ⟨item.pattern, item.nesting + 1, true⟩

/-- An item several times over. Nothing over and over is nothing. -/
def times (rounds : Rounds) (item : Item) : Item :=
  ⟨if item.pattern = nothing then nothing else item.pattern.times rounds, item.nesting + 1, true⟩

end Item

/-! ## The state of the reader -/

/-- A group that is open: the items of its current branch and its finished branches, both latest
first, and the flags outside of it. -/
structure Level where
  items : List Item := []
  branches : List Item := []
  outside : Flags := {}

/-- The item that the items and branches of a group make. -/
def Level.item (level : Level) : Item :=
  Item.choice ((Item.sequence level.items.reverse :: level.branches).reverse)

/-- What has been read. -/
structure State where
  flags : Flags := {}
  level : Level := {}
  /-- The groups around the current one, innermost first. -/
  outer : List Level := []
  /-- The names given to groups. -/
  names : List Text := []

namespace State

/-- One more item in the current sequence. -/
def push (s : State) (item : Item) : State :=
  { s with level := { s.level with items := item :: s.level.items } }

/-- The start of a group, inside of which `inside` are in force. -/
def openGroup (s : State) (inside : Flags) : State :=
  { s with flags := inside, level := { outside := s.flags }, outer := s.level :: s.outer }

/-- The end of the current group, if one is open. -/
def closeGroup? (s : State) : Option State :=
  match s.outer with
  | [] => none
  | level :: outer =>
    some ({ s with flags := s.level.outside, level, outer }.push s.level.item.group)

/-- The start of another branch. -/
def nextBranch (s : State) : State :=
  { s with level := { s.level with
      items := [], branches := Item.sequence s.level.items.reverse :: s.level.branches } }

/-- The latest item several times over. There has to be one that can be repeated. -/
def repeat? (s : State) (min : Nat) (max : Option Nat) (lazy : Bool) : Option State :=
  match s.level.items with
  | [] => none
  | item :: items =>
    if !item.repeatable then none
    else
      let rounds := ⟨min, max, lazy == s.flags.swapGreed⟩
      some { s with level := { s.level with items := item.times rounds :: items } }

/-- What a single character or an escape matches. -/
def pushAtom? (s : State) : Atom → Option State
  | .literal c => (s.flags.literal? c).map fun set => s.push ⟨.one set, 0, true⟩
  | .set set => some (s.push ⟨.one set, 0, true⟩)
  | .place p => some (s.push ⟨.place p, 0, true⟩)

end State

/-! ## Repetitions -/

/-- A text without a question mark at its start, and whether there was one. -/
def lazyMark : Text → Bool × Text
  | '?' :: rest => (true, rest)
  | t => (false, t)

/-- Reads digits, between which blanks may stand where they are skipped. -/
def digits (flags : Flags) : Nat → Text → List Nat × Text
  | 0, t => ([], t)
  | _ + 1, [] => ([], [])
  | fuel + 1, c :: rest =>
    match Digits.value? 10 c with
    | none => ([], c :: rest)
    | some d =>
      let (ds, rest) := digits flags fuel (flags.skip rest)
      (d :: ds, rest)

/-- Reads a number with blanks around it: none if there is no digit, and no result at all if it
does not fit into 32 bits. -/
def number? (flags : Flags) (t : Text) : Option (Option Nat × Text) :=
  let (ds, rest) := digits flags t.length (t.dropWhile Unicode.isBlank)
  let rest := flags.skip (rest.dropWhile Unicode.isBlank)
  if ds.isEmpty then some (none, rest)
  else
    let n := Digits.ofValues 10 ds
    if n < Nat.pow 2 32 then some (some n, rest) else none

/-- Reads the rest of a counted repetition, whose brace has been read: the least and the greatest
number of rounds. -/
def counts? (flags : Flags) (t : Text) : Option (Nat × Option Nat × Text) := do
  let (min, t) ← number? flags (flags.skip t)
  match t with
  | '\x7d' :: rest => return (← min, min, rest)
  | ',' :: t =>
    match flags.skip t with
    | '\x7d' :: rest => return (← min, none, rest)
    | t =>
      let (max, t) ← number? flags t
      match t with
      | '\x7d' :: rest => if (← min) ≤ (← max) then return (← min, max, rest) else none
      | _ => none
  | _ => none

/-! ## Groups -/

/-- Whether a character may stand in the name of a group. -/
def isNameCharacter (first : Bool) (c : Char) : Bool :=
  if first then c == '_' || Unicode.isAlphabetic c.toNat
  else c == '_' || c == '.' || c == '[' || c == ']' || Unicode.isAlphanumeric c.toNat

/-- Reads the name of a group and the angle bracket behind it. -/
def groupName? (t : Text) : Option (Text × Text) :=
  match t.takeWhile (· != '>'), t.dropWhile (· != '>') with
  | c :: name, '>' :: rest =>
    if isNameCharacter true c && name.all (isNameCharacter false) then some (c :: name, rest)
    else none
  | _, _ => none

/-- Reads flags up to the colon or bracket that ends them. The flags behind a hyphen are cleared
and all others set. No flag may be named twice, and nothing may end in a hyphen. -/
def flagChanges? (named : List Flag) (clearing : Bool) :
    Text → Option (List (Flag × Bool) × Char × Text)
  | [] => none
  | '-' :: rest =>
    if clearing then none
    else match rest with
      | ':' :: _ | ')' :: _ => none
      | _ => flagChanges? named true rest
  | c :: rest =>
    if c == ':' || c == ')' then some ([], c, rest)
    else do
      let flag ← Flag.ofLetter? c
      if flag ∈ named then none
      else
        let (changes, stop, rest) ← flagChanges? (flag :: named) clearing rest
        return ((flag, !clearing) :: changes, stop, rest)

/-- Reads the start of a group, whose bracket has been read, or a change of flags. -/
def openGroup? (s : State) (t : Text) : Option (State × Text) :=
  match s.flags.skip t with
  | '?' :: '=' :: _ | '?' :: '!' :: _ | '?' :: '<' :: '=' :: _ | '?' :: '<' :: '!' :: _ => none
  | '?' :: 'P' :: '<' :: rest | '?' :: '<' :: rest => do
    let (name, rest) ← groupName? rest
    if name ∈ s.names then none
    else return ({ s with names := name :: s.names }.openGroup s.flags, rest)
  | '?' :: rest => do
    let (changes, stop, rest) ← flagChanges? [] false rest
    let flags := changes.foldl (fun flags (flag, value) => flags.set value flag) s.flags
    if stop == ':' then return (s.openGroup flags, rest)
    else if changes.isEmpty then none
    else return ({ s with flags }.push ⟨nothing, 0, false⟩, rest)
  | rest => some (s.openGroup s.flags, rest)

/-! ## The whole text -/

/-- Reads one part: a bracket, a branch, a repetition, a class, an escape or a character. -/
def part? (s : State) (c : Char) (rest : Text) : Option (State × Text) :=
  match c with
  | '(' => openGroup? s rest
  | ')' => s.closeGroup?.map (·, rest)
  | '|' => some (s.nextBranch, rest)
  | '[' => (Bracket.read? s.flags rest).map fun (set, rest) => (s.push ⟨.one set, 1, true⟩, rest)
  | '?' => repeated 0 (some 1) rest
  | '*' => repeated 0 none rest
  | '+' => repeated 1 none rest
  | '\x7b' => do
    let (min, max, rest) ← counts? s.flags rest
    repeated min max (s.flags.skip rest)
  | '\\' => do
    let (atom, rest) ← Escape.read? s.flags rest
    return (← s.pushAtom? atom, rest)
  | '.' => s.flags.dot?.map fun set => (s.push ⟨.one set, 0, true⟩, rest)
  | '^' => some (s.push ⟨.place s.flags.caret, 0, true⟩, rest)
  | '$' => some (s.push ⟨.place s.flags.dollar, 0, true⟩, rest)
  | c => (s.pushAtom? (.literal c)).map (·, rest)
where
  /-- Repeats the latest item and reads whether the repetition is marked as lazy. -/
  repeated (min : Nat) (max : Option Nat) (rest : Text) : Option (State × Text) :=
    let (lazy, rest) := lazyMark rest
    (s.repeat? min max lazy).map (·, rest)

/-- Reads parts up to the end of the text, with fuel for its length. -/
def parts? : Nat → State → Text → Option State
  | 0, s, t => if t.isEmpty then some s else none
  | fuel + 1, s, t =>
    match s.flags.skip t with
    | [] => some s
    | c :: rest => do
      let (s, rest) ← part? s c rest
      parts? fuel s rest

end Reader

/-- The pattern that a text describes, unless the text breaks the rules. -/
def read? (t : Text) : Option Pattern := do
  let s ← Reader.parts? t.length {} t
  if !s.outer.isEmpty then none
  else
    let item := s.level.item
    if item.nesting ≤ Reader.nestingLimit ∧ item.pattern.size ≤ Reader.sizeLimit then
      return item.pattern
    else none

end Pattern

/-! ## Readers of patterns -/

/-- What reads patterns: it makes a pattern of a text, or says what is wrong with the text. Nothing
is assumed of it. Those who check an anchor and those who look for one have the same reader. -/
class PatternReader where
  read : Text → Except String Pattern

/-- The reader of this module, which the program runs with. It has no words for what is wrong with a
text. -/
instance Pattern.reader : PatternReader where
  read t := (Pattern.read? t).elim (.error "") .ok

end PageShell
