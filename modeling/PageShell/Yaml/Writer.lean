import PageShell.Data
import PageShell.Yaml.Scalar

/-!
# Writing YAML documents

Records and lists are written in block style. The items of a list stand under the name of its
field, without indentation, and the fields of a record two blanks further in.
-/

namespace PageShell.Yaml

mutual

/-- A value behind the name of its field, at the indentation of the fields. -/
def writeValue (indent : Nat) : Data → Text
  | .null => " null\n".toList
  | .boolean value => (if value then " true\n" else " false\n").toList
  | .integer value => ' ' :: (toString value).toList ++ ['\n']
  | .decimal written => ' ' :: written ++ ['\n']
  | .moment written => ' ' :: writeText (indent + 2) written
  | .character c => ' ' :: writeCharacter (indent + 2) c
  | .text s => ' ' :: writeText (indent + 2) s.toList
  | .list [] => " []\n".toList
  | .list (item :: items) => '\n' :: writeItem indent item ++ writeItems indent items
  | .record [] => " \x7b\x7d\n".toList
  | .record ((name, value) :: fields) =>
    '\n' :: writeField (indent + 2) (name, value) ++ writeFields (indent + 2) fields

/-- An item of a list, at the indentation of its dash. The first field of a record stands on the
line of the dash. -/
def writeItem (indent : Nat) : Data → Text
  | .record ((name, value) :: fields) =>
    indentation indent ++ ['-', ' '] ++ name.toList ++ [':'] ++ writeValue (indent + 2) value ++
      writeFields (indent + 2) fields
  | item => indentation indent ++ '-' :: writeValue indent item

/-- Items of a list. -/
def writeItems (indent : Nat) : List Data → Text
  | [] => []
  | item :: items => writeItem indent item ++ writeItems indent items

/-- A field of a record. -/
def writeField (indent : Nat) : String × Data → Text
  | (name, value) => indentation indent ++ name.toList ++ [':'] ++ writeValue indent value

/-- Fields of a record. -/
def writeFields (indent : Nat) : List (String × Data) → Text
  | [] => []
  | field :: fields => writeField indent field ++ writeFields indent fields

end

/-- A record as a document. -/
def write (fields : List (String × Data)) : Text := writeFields 0 fields

end PageShell.Yaml
