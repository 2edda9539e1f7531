import PageShell.Data
import PageShell.Toml.Quoting

/-!
# Writing TOML documents

A document lists its plain fields first, each on a line. A field that is a record follows as
a table, and one that is a list of records as one table for each of them. The names of fields are
bare keys.
-/

namespace PageShell.Toml

/-! ## Values -/

/-- A value that is no table. -/
def writeValue : Data → Text
  | .null => []
  | .boolean value => (if value then "true" else "false").toList
  | .integer value => (toString value).toList
  | .decimal written => written
  | .moment written => written
  | .character c => quote [c]
  | .text s => quote s.toList
  | .list [] => ['[', ']']
  | .list [item] => '[' :: writeValue item ++ [']']
  | .list (item :: items) =>
    ['[', '\n'] ++ ([' ', ' ', ' ', ' '] ++ writeValue item ++ [',', '\n']) ++ writeRest items ++
      [']']
  | .record _ => ['\x7b', '\x7d']
where
  /-- The items behind the first, on lines of their own. -/
  writeRest : List Data → Text
    | [] => []
    | item :: items => [' ', ' ', ' ', ' '] ++ writeValue item ++ [',', '\n'] ++ writeRest items

/-! ## Tables -/

/-- A field on a line of its own. -/
def writeField (field : String × Data) : Text :=
  field.1.toList ++ [' ', '=', ' '] ++ writeValue field.2 ++ ['\n']

/-- Fields, each on a line. -/
def writeFields (fields : List (String × Data)) : Text := fields.flatMap writeField

/-- The fields of a record, of which other values have none. -/
def fieldsOf : Data → List (String × Data)
  | .record fields => fields
  | _ => []

/-- Whether a value is written as a table or as tables. -/
def isSection : Data → Bool
  | .record _ => true
  | .list (.record _ :: _) => true
  | _ => false

/-- The tables of a field that is a record or a list of records. -/
def writeSection (field : String × Data) : Text :=
  match field.2 with
  | .record fields => ['\n', '['] ++ field.1.toList ++ [']', '\n'] ++ writeFields fields
  | .list items =>
    items.flatMap fun item =>
      ['\n', '[', '['] ++ field.1.toList ++ [']', ']', '\n'] ++ writeFields (fieldsOf item)
  | _ => []

/-- A record as a document. -/
def write (fields : List (String × Data)) : Text :=
  writeFields (fields.filter (!isSection ·.2)) ++
    (fields.filter (isSection ·.2)).flatMap writeSection

end PageShell.Toml
