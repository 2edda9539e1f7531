import PageShell.Toml.Scalar
import PageShell.Toml.Strings
import PageShell.Toml.Table

/-!
# The statements of a TOML document

A document is a sequence of statements: a key gets a value, or a table is opened for the
statements that follow.

Results:

* `statements?_nil`: a document may be empty.
-/

namespace PageShell.Toml

/-! ## Blanks and comments -/

/-- A text without the blanks at its start. -/
def skipBlanks (t : Text) : Text := t.dropWhile fun c => c == ' ' || c == '\t'

/-- Takes the rest of a comment off the start of a text, up to the line break. -/
def comment? : Text → Option Text
  | [] => some []
  | '\n' :: rest => some ('\n' :: rest)
  | '\r' :: '\n' :: rest => some ('\r' :: '\n' :: rest)
  | c :: rest => if isControl c then none else comment? rest

/-- Takes blanks, comments and line breaks off the start of a text; `inComment` says that it
starts within a comment. -/
def skipLines? (inComment : Bool) : Text → Option Text
  | [] => some []
  | '\n' :: rest => skipLines? false rest
  | '\r' :: '\n' :: rest => skipLines? false rest
  | c :: rest =>
    if inComment then if isControl c then none else skipLines? true rest
    else if c == ' ' || c == '\t' then skipLines? false rest
    else if c == '#' then skipLines? true rest
    else some (c :: rest)

/-- Takes the rest of a line behind a statement, and its line break, off the start of a text. -/
def endLine? (t : Text) : Option Text := do
  let t ←
    match skipBlanks t with
    | '#' :: rest => comment? rest
    | t => some t
  match t with
  | [] => some []
  | '\n' :: rest => some rest
  | '\r' :: '\n' :: rest => some rest
  | _ => none

/-! ## Keys -/

/-- Whether a character may stand in a bare key. -/
def isBareCharacter (c : Char) : Bool := c.isAlphanum || c == '_' || c == '-'

/-- Reads one part of a key. -/
def keyPart? (t : Text) : Option (String × Text) :=
  match t with
  | '"' :: _ | '\'' :: _ => (lineString? t).map fun (s, rest) => (String.ofList s, rest)
  | t =>
    match t.takeWhile isBareCharacter with
    | [] => none
    | key => some (String.ofList key, t.dropWhile isBareCharacter)

/-- Reads a key, whose parts are separated by dots and blanks, and the blanks behind it. -/
def key? : Nat → Text → Option (List String × Text)
  | 0, _ => none
  | fuel + 1, t => do
    let (part, rest) ← keyPart? (skipBlanks t)
    match skipBlanks rest with
    | '.' :: rest =>
      let (parts, rest) ← key? fuel rest
      return (part :: parts, rest)
    | rest => return ([part], rest)

/-! ## Values -/

/-- Takes an equals sign and the blanks behind it off the start of a text. -/
def equals? : Text → Option Text
  | '=' :: rest => some (skipBlanks rest)
  | _ => none

mutual

/-- Reads a value. -/
def value? : Nat → Text → Option (Data × Text)
  | 0, _ => none
  | fuel + 1, t =>
    match t with
    | '"' :: _ | '\'' :: _ => (string? t).map fun (s, rest) => (.text (String.ofList s), rest)
    | '[' :: rest => (items? fuel rest).map fun (items, rest) => (.list items, rest)
    | '\x7b' :: rest =>
      match skipBlanks rest with
      | '\x7d' :: rest => some (.record [], rest)
      | rest =>
        (inlineFields? fuel [] rest).map fun (table, rest) => (.record (Table.toFields table), rest)
    | t =>
      let (word, rest) := word t
      (scalar? word).map (·, rest)

/-- Reads the items of a list and the bracket that closes it. Comments and line breaks may stand
between items, and a comma behind the last. -/
def items? : Nat → Text → Option (List Data × Text)
  | 0, _ => none
  | fuel + 1, t => do
    match ← skipLines? false t with
    | ']' :: rest => return ([], rest)
    | t =>
      let (item, t) ← value? fuel t
      match ← skipLines? false t with
      | ']' :: rest => return ([item], rest)
      | ',' :: rest =>
        let (items, rest) ← items? fuel rest
        return (item :: items, rest)
      | _ => none

/-- Reads the fields of a table on one line and the brace that closes it, behind some fields. -/
def inlineFields? : Nat → Table → Text → Option (Table × Text)
  | 0, _, _ => none
  | fuel + 1, table, t => do
    let (key, t) ← key? t.length t
    let (value, t) ← value? fuel (← equals? t)
    let table ← table.assign? [] key value
    match skipBlanks t with
    | '\x7d' :: rest => return (table, rest)
    | ',' :: rest => inlineFields? fuel table rest
    | _ => none

end

/-! ## Statements -/

/-- A statement of a document. -/
inductive Statement
  /-- A key gets a value in the table that is open. -/
  | assign (key : List String) (value : Data)
  /-- A table is opened. -/
  | table (key : List String)
  /-- A table is added to a list of tables and opened. -/
  | nextTable (key : List String)

/-- Reads a statement. -/
def statement? (t : Text) : Option (Statement × Text) :=
  match t with
  | '[' :: '[' :: rest => do
    let (key, rest) ← key? rest.length rest
    match rest with
    | ']' :: ']' :: rest => return (.nextTable key, rest)
    | _ => none
  | '[' :: rest => do
    let (key, rest) ← key? rest.length rest
    match rest with
    | ']' :: rest => return (.table key, rest)
    | _ => none
  | t => do
    let (key, rest) ← key? t.length t
    let rest ← equals? rest
    let (value, rest) ← value? (2 * rest.length + 2) rest
    return (.assign key value, rest)

/-- Reads the statements of a text, each of which ends its line, with fuel for its length. -/
def statements? : Nat → Text → Option (List Statement)
  | 0, _ => none
  | fuel + 1, t => do
    match ← skipLines? false t with
    | [] => return []
    | t =>
      let (statement, rest) ← statement? t
      return statement :: (← statements? fuel (← endLine? rest))

theorem statements?_nil (fuel : Nat) : statements? (fuel + 1) [] = some [] := rfl

end PageShell.Toml
