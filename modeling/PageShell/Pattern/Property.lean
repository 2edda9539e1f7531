import PageShell.Pattern.Basic
import PageShell.Unicode.Alphabetic
import PageShell.Unicode.Script

/-!
# Character properties by name

Patterns name sets of characters by general category, by property and by script. Names are
compared without regard to case, blanks, underscores, hyphens and a leading `is`.
-/

namespace PageShell.Pattern.Property

open Unicode

/-! ## Names -/

/-- A name without what loose comparison disregards. What would leave only a `c` is no name of
the category `c` but that of a comment, which keeps its start. -/
def looseName (name : Text) : Text :=
  let folded := name.map Char.toLower
  let bare := fun t : Text =>
    t.filter fun c => c != ' ' && c != '_' && c != '-' && c.toNat < 0x80
  if ['i', 's'].isPrefixOf folded then
    if bare (folded.drop 2) = ['c'] then ['i', 's', 'c'] else bare (folded.drop 2)
  else bare folded

/-- The set of the characters of a general category, by its short or its long name. -/
def category? (name : String) : Option CharSet :=
  match name with
  | "lu" | "uppercaseletter" => some (.ranges uppercaseLetters)
  | "ll" | "lowercaseletter" => some (.ranges lowercaseLetters)
  | "lt" | "titlecaseletter" => some (.ranges titlecaseLetters)
  | "lm" | "modifierletter" => some (.ranges modifierLetters)
  | "lo" | "otherletter" => some (.ranges otherLetters)
  | "lc" | "casedletter" => some (.ranges casedLetters)
  | "l" | "letter" => some (.ranges letters)
  | "mn" | "nonspacingmark" => some (.ranges nonspacingMarks)
  | "mc" | "spacingmark" => some (.ranges spacingMarks)
  | "me" | "enclosingmark" => some (.ranges enclosingMarks)
  | "m" | "mark" | "combiningmark" => some (.ranges marks)
  | "nd" | "decimalnumber" | "digit" => some (.ranges decimalDigits)
  | "nl" | "letternumber" => some (.ranges letterNumbers)
  | "no" | "othernumber" => some (.ranges otherNumbers)
  | "n" | "number" => some (.ranges numbers)
  | "pc" | "connectorpunctuation" => some (.ranges connectorPunctuation)
  | "pd" | "dashpunctuation" => some (.ranges dashes)
  | "ps" | "openpunctuation" => some (.ranges openingPunctuation)
  | "pe" | "closepunctuation" => some (.ranges closingPunctuation)
  | "pi" | "initialpunctuation" => some (.ranges initialQuotes)
  | "pf" | "finalpunctuation" => some (.ranges finalQuotes)
  | "po" | "otherpunctuation" => some (.ranges otherPunctuation)
  | "p" | "punctuation" | "punct" => some (.ranges punctuation)
  | "sm" | "mathsymbol" => some (.ranges mathSymbols)
  | "sc" | "currencysymbol" => some (.ranges currencySymbols)
  | "sk" | "modifiersymbol" => some (.ranges modifierSymbols)
  | "so" | "othersymbol" => some (.ranges otherSymbols)
  | "s" | "symbol" => some (.ranges symbols)
  | "zs" | "spaceseparator" => some (.ranges spaceSeparators)
  | "zl" | "lineseparator" => some (.ranges lineSeparators)
  | "zp" | "paragraphseparator" => some (.ranges paragraphSeparators)
  | "z" | "separator" => some (.ranges separators)
  | "cc" | "control" | "cntrl" => some (.ranges controls)
  | "cf" | "format" => some (.ranges formats)
  | "co" | "privateuse" => some (.ranges privateUse)
  | "cn" | "unassigned" => some (.compl (.ranges assigned))
  | "c" | "other" =>
    some (.union (.ranges (controls ++ formats ++ privateUse)) (.compl (.ranges assigned)))
  | "any" => some .any
  | "assigned" => some (.ranges assigned)
  | "ascii" => some (.ranges [(0, 0x7F)])
  | _ => none

/-- The set of the characters that have a property. -/
def binary? (name : String) : Option CharSet :=
  match name with
  | "alphabetic" | "alpha" => some (.ranges alphabetic)
  | "uppercase" | "upper" => some (.ranges uppercase)
  | "lowercase" | "lower" => some (.ranges lowercase)
  | "whitespace" | "wspace" | "space" => some .space
  | _ => none

/-- The set of the characters of a script, by its name or its code. -/
def ofScript? (name : String) : Option CharSet :=
  (script? (fun s => String.ofList (looseName s.toList)) name).map fun s => .ranges s.ranges

/-- The set that a single name stands for. -/
def named? (name : Text) : Option CharSet :=
  let name := String.ofList (looseName name)
  ((binary? name).or (category? name)).or (ofScript? name)

/-- The characters for which a property has a value. Only the general category and the script are
known. -/
def valued? (property value : Text) : Option CharSet :=
  let value := String.ofList (looseName value)
  match String.ofList (looseName property) with
  | "gc" | "generalcategory" => category? value
  | "sc" | "script" => ofScript? value
  | _ => none

end PageShell.Pattern.Property
