import PageShell.Pattern.Escape

/-!
# Bracketed classes

A class in brackets is the union of characters, ranges, escapes, named classes and inner classes.
Two of these unions can be intersected or subtracted, from left to right, and `^` at the start
takes the complement of the whole.
-/

namespace PageShell.Pattern.Bracket

/-! ## Named classes -/

/-- The set that a name between colons stands for. -/
def namedSet? (name : Text) : Option CharSet :=
  match String.ofList name with
  | "alnum" => some (.ranges [(0x30, 0x39), (0x41, 0x5A), (0x61, 0x7A)])
  | "alpha" => some (.ranges [(0x41, 0x5A), (0x61, 0x7A)])
  | "ascii" => some (.ranges [(0x0, 0x7F)])
  | "blank" => some (.ranges [(0x9, 0x9), (0x20, 0x20)])
  | "cntrl" => some (.ranges [(0x0, 0x1F), (0x7F, 0x7F)])
  | "digit" => some (.ranges [(0x30, 0x39)])
  | "graph" => some (.ranges [(0x21, 0x7E)])
  | "lower" => some (.ranges [(0x61, 0x7A)])
  | "print" => some (.ranges [(0x20, 0x7E)])
  | "punct" => some (.ranges [(0x21, 0x2F), (0x3A, 0x40), (0x5B, 0x60), (0x7B, 0x7E)])
  | "space" => some (.ranges [(0x9, 0xD), (0x20, 0x20)])
  | "upper" => some (.ranges [(0x41, 0x5A)])
  | "word" => some (.ranges [(0x30, 0x39), (0x41, 0x5A), (0x5F, 0x5F), (0x61, 0x7A)])
  | "xdigit" => some (.ranges [(0x30, 0x39), (0x41, 0x46), (0x61, 0x66)])
  | _ => none

/-- Reads a named class such as `:alpha:]` or `:^alpha:]`, whose bracket has been read, with
whether it is negated. -/
def named? : Text → Option (CharSet × Bool × Text)
  | ':' :: t =>
    let negated := t.head? == some '^'
    let t := if negated then t.drop 1 else t
    match t.dropWhile (· != ':') with
    | ':' :: ']' :: rest => (namedSet? (t.takeWhile (· != ':'))).map (·, negated, rest)
    | _ => none
  | _ => none

/-! ## Items -/

/-- Reads one character or escape. -/
def atom? (flags : Flags) : Text → Option (Atom × Text)
  | [] => none
  | '\\' :: rest => Escape.read? flags rest
  | c :: rest => some (.literal c, rest)

/-- A character as the end of a range. Without `unicode` it has to be an ASCII character. -/
def rangeEnd? (flags : Flags) : Atom → Option Nat
  | .literal c => if flags.unicode || c.toNat < 0x80 then some c.toNat else none
  | _ => none

/-- The set of a single item. No condition on a place can stand in a class. -/
def atomSet? (flags : Flags) : Atom → Option CharSet
  | .literal c => (rangeEnd? flags (.literal c)).map fun n => .ranges [(n, n)]
  | .set s => some s
  | .place _ => none

/-- Reads a single item or a range. A hyphen makes a range unless the class ends, or another
hyphen stands, behind it. -/
def item? (flags : Flags) (t : Text) : Option (CharSet × Text) := do
  let (a, t) ← atom? flags t
  match flags.skip t with
  | [] => none
  | '-' :: rest =>
    match flags.skip rest with
    | [] => none
    | c :: more =>
      if c == ']' || c == '-' then return (← atomSet? flags a, '-' :: rest)
      else
        let (b, t) ← atom? flags (c :: more)
        let first ← rangeEnd? flags a
        let last ← rangeEnd? flags b
        if first ≤ last then return (.ranges [(first, last)], t) else none
  | t => return (← atomSet? flags a, t)

/-! ## Operations on classes -/

/-- An operation between two unions of items. -/
inductive Operation
  | intersection
  | difference
  | symmetricDifference
  deriving DecidableEq, Repr

/-- The set that an operation makes of two sets. -/
def Operation.apply : Operation → CharSet → CharSet → CharSet
  | intersection, s, t => .inter s t
  | difference, s, t => .diff s t
  | symmetricDifference, s, t => .symmDiff s t

/-- A class that has been opened and not yet closed. -/
structure Level where
  negated : Bool
  /-- The items since the bracket or since the latest operation. -/
  items : CharSet
  /-- The latest operation with its left side. -/
  pending : Option (Operation × CharSet) := none

namespace Level

/-- The class with one more item. -/
def add (level : Level) (s : CharSet) : Level := { level with items := .union level.items s }

/-- The set so far, with all operations carried out. -/
def value (flags : Flags) (level : Level) : CharSet :=
  match level.pending with
  | none => level.items
  | some (op, left) => op.apply (flags.fold left) (flags.fold level.items)

/-- The class at the start of the right side of an operation. -/
def operate (flags : Flags) (op : Operation) (level : Level) : Level where
  negated := level.negated
  items := .empty
  pending := some (op, level.value flags)

/-- The set of a class that ends. -/
def close? (flags : Flags) (level : Level) : Option CharSet :=
  flags.negate? level.negated (flags.fold (level.value flags))

end Level

/-- Reads hyphens that stand for themselves. -/
def hyphens (flags : Flags) : Nat → Level → Text → Level × Text
  | fuel + 1, level, '-' :: rest => hyphens flags fuel (level.add (.single '-')) (flags.skip rest)
  | _, level, t => (level, t)

/-- Reads the start of a class, whose bracket has been read: a `^`, hyphens, and a closing
bracket that stands for itself because nothing comes before it. -/
def open? (flags : Flags) (t : Text) : Option (Level × Text) :=
  let t := flags.skip t
  let negated := t.head? == some '^'
  let t := if negated then flags.skip (t.drop 1) else t
  match hyphens flags t.length ⟨negated, .empty, none⟩ t with
  | (_, []) => none
  | (level, ']' :: rest) =>
    if t.head? == some ']' then
      match flags.skip rest with
      | [] => none
      | rest => some (level.add (.single ']'), rest)
    else some (level, ']' :: rest)
  | (level, rest) => some (level, rest)

/-! ## Whole classes -/

/-- Reads up to the bracket that closes the outermost class, with the classes around the current
one, innermost first, and fuel for the length of the text. -/
def inside? (flags : Flags) : Nat → Level → List Level → Text → Option (CharSet × Text)
  | 0, _, _, _ => none
  | fuel + 1, level, outer, t =>
    match flags.skip t with
    | [] => none
    | '[' :: rest =>
      match named? rest with
      | some (s, negated, rest) => do
        let s ← flags.negate? negated (flags.fold s)
        inside? flags fuel (level.add s) outer rest
      | none => do
        let (inner, rest) ← open? flags rest
        inside? flags fuel inner (level :: outer) rest
    | ']' :: rest => do
      let s ← level.close? flags
      match outer with
      | [] => return (s, rest)
      | level :: outer => inside? flags fuel (level.add s) outer rest
    | '&' :: '&' :: rest => inside? flags fuel (level.operate flags .intersection) outer rest
    | '-' :: '-' :: rest => inside? flags fuel (level.operate flags .difference) outer rest
    | '~' :: '~' :: rest =>
      inside? flags fuel (level.operate flags .symmetricDifference) outer rest
    | t => do
      let (s, rest) ← item? flags t
      inside? flags fuel (level.add s) outer rest

/-- Reads a class whose opening bracket has been read. -/
def read? (flags : Flags) (t : Text) : Option (CharSet × Text) := do
  let (level, rest) ← open? flags t
  inside? flags rest.length level [] rest

end PageShell.Pattern.Bracket
