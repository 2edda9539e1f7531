import PageShell.Config

/-!
# What is wrong with a configuration

A configuration is checked part by part: version, file list, rules, anchor and wrapper. Every
problem is an issue, and a configuration without issues can be used.

Results:

* `isIdentifier_iff`: an identifier starts with a letter, `_` or `$` and goes on with these and
  digits.
-/

namespace PageShell

/-- A problem of a configuration. -/
inductive Issue
  | unsupportedVersion (version : String)
  | noFiles
  | duplicateFile (file : String)
  | missingFile (file : String)
  | emptySegment (category : Category)
  | separatorInSegment (segment : String)
  | shadowedSegment (segment : String) (category : Category)
  /-- The pattern of the anchor cannot be read. The complaint is what its reader says. -/
  | unreadablePattern (pattern complaint : String)
  | equalDelimiters (delimiter : Char)
  | badComponent (name : String)
  | badRoleAttribute (name : String)
  | badPassThrough (name : String)
  | repeatedPassThrough (name : String)
  deriving DecidableEq, Repr

/-- The wording of a problem. -/
def Issue.message : Issue → String
  | unsupportedVersion version => "Unsupported config version: " ++ version
  | noFiles => "No files configured"
  | duplicateFile file => "Duplicate file entry: " ++ file
  | missingFile file => "File not found: " ++ file
  | emptySegment category => "Rule for '" ++ category.label ++ "' has an empty segment"
  | separatorInSegment segment => "Segment '" ++ segment ++ "' must be a single directory name"
  | shadowedSegment segment category =>
    "Segment '" ++ segment ++ "' for '" ++ category.label ++ "' is shadowed by an earlier rule"
  | unreadablePattern pattern complaint =>
    "Invalid anchor pattern '" ++ pattern ++ "': " ++ complaint
  | equalDelimiters delimiter =>
    "Opening and closing delimiters are both '" ++ String.singleton delimiter ++ "'"
  | badComponent name => "Wrapper component '" ++ name ++ "' is not a valid element name"
  | badRoleAttribute name => "Role attribute '" ++ name ++ "' is not a valid attribute name"
  | badPassThrough name => "Pass-through identifier '" ++ name ++ "' is not valid"
  | repeatedPassThrough name => "Pass-through identifier '" ++ name ++ "' is listed twice"

/-! ## Names -/

theorem isAlpha_iff (c : Char) :
    c.isAlpha = true ↔ ('A' ≤ c ∧ c ≤ 'Z') ∨ ('a' ≤ c ∧ c ≤ 'z') := by
  have hupper : c.isUpper = true ↔ 'A' ≤ c ∧ c ≤ 'Z' := decide_eq_true_iff
  have hlower : c.isLower = true ↔ 'a' ≤ c ∧ c ≤ 'z' :=
    Bool.and_eq_true_iff.trans (and_congr decide_eq_true_iff decide_eq_true_iff)
  exact Bool.or_eq_true_iff.trans (or_congr hupper hlower)

theorem isAlphanum_iff (c : Char) :
    c.isAlphanum = true ↔ c.isAlpha = true ∨ ('0' ≤ c ∧ c ≤ '9') := by
  have hdigit : c.isDigit = true ↔ '0' ≤ c ∧ c ≤ '9' :=
    Bool.and_eq_true_iff.trans (and_congr decide_eq_true_iff decide_eq_true_iff)
  exact Bool.or_eq_true_iff.trans (or_congr Iff.rfl hdigit)

/-- Whether a character may start an identifier. -/
def isIdentifierStart (c : Char) : Bool := c.isAlpha || c == '_' || c == '$'

/-- Whether a character may go on in an identifier. -/
def isIdentifierPart (c : Char) : Bool := c.isAlphanum || c == '_' || c == '$'

/-- Whether a name can be used for elements, attributes and variables. -/
def isIdentifier (name : String) : Bool :=
  match name.toList with
  | [] => false
  | c :: rest => isIdentifierStart c && rest.all isIdentifierPart

theorem isIdentifier_iff (name : String) :
    isIdentifier name = true ↔
      ∃ c rest, name.toList = c :: rest ∧ isIdentifierStart c = true ∧
        ∀ d ∈ rest, isIdentifierPart d = true := by
  unfold isIdentifier
  split
  · simp_all
  · rename_i c rest h
    constructor
    · intro hc
      simp only [Bool.and_eq_true, List.all_eq_true] at hc
      exact ⟨c, rest, h, hc⟩
    · rintro ⟨c', rest', h', hc⟩
      rw [h] at h'
      cases h'
      simpa using hc

namespace Config

/-! ## Files -/

/-- The issues of a list of files behind some others, when `isPresent` says which files are
there. -/
def fileIssuesBehind (isPresent : String → Bool) : List String → List String → List Issue
  | _, [] => []
  | seen, file :: files =>
    (if file ∈ seen then [.duplicateFile file] else []) ++
      (if isPresent file then [] else [.missingFile file]) ++
      fileIssuesBehind isPresent (file :: seen) files

/-- The issues of a list of files. -/
def fileIssues (isPresent : String → Bool) (files : List String) : List Issue :=
  (if files.isEmpty then [.noFiles] else []) ++ fileIssuesBehind isPresent [] files

/-! ## Rules -/

/-- Whether a segment has a separator in it. -/
def hasSeparator (segment : String) : Bool := segment.toList.any fun c => c == '/' || c == '\\'

/-- The issues of a list of rules behind rules with some segments. A rule with an empty segment
has no other issue. -/
def ruleIssuesBehind : List String → List Rule → List Issue
  | _, [] => []
  | seen, rule :: rules =>
    if Text.trim rule.segment.toList = [] then
      .emptySegment rule.category :: ruleIssuesBehind seen rules
    else
      (if hasSeparator rule.segment then [.separatorInSegment rule.segment] else []) ++
        (if rule.segment ∈ seen then [.shadowedSegment rule.segment rule.category] else []) ++
        ruleIssuesBehind (rule.segment :: seen) rules

/-- The issues of a list of rules. -/
def ruleIssues (rules : List Rule) : List Issue := ruleIssuesBehind [] rules

/-! ## Anchor and wrapper -/

/-- The issues of the pattern of an anchor. -/
def patternIssues [PatternReader] (pattern : String) : List Issue :=
  match PatternReader.read pattern.toList with
  | .ok _ => []
  | .error complaint => [.unreadablePattern pattern complaint]

/-- The issues of anchor settings. No region is ever closed by the delimiter that opens it. -/
def anchorIssues [PatternReader] (a : AnchorSettings) : List Issue :=
  patternIssues a.pattern ++
    (if a.opening = a.closing then [.equalDelimiters a.opening] else [])

/-- The issues of a wrapper. -/
def wrapperIssues (w : Wrapper) : List Issue :=
  (if isIdentifier w.component then [] else [.badComponent w.component]) ++
    (if isIdentifier w.roleAttribute then [] else [.badRoleAttribute w.roleAttribute]) ++
    ([w.passThrough.1, w.passThrough.2].filter (!isIdentifier ·)).map .badPassThrough ++
    (if w.passThrough.1 = w.passThrough.2 then [.repeatedPassThrough w.passThrough.1] else [])

/-! ## All issues -/

/-- The issues of a configuration. -/
def issues [PatternReader] (isPresent : String → Bool) (c : Config) : List Issue :=
  (if c.version = supportedVersion then [] else [.unsupportedVersion c.version]) ++
    fileIssues isPresent c.files ++ ruleIssues c.rules ++ anchorIssues c.anchor ++
    wrapperIssues c.wrapper

end Config

end PageShell
