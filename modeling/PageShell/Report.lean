import PageShell.Category
import PageShell.Colour

/-!
# Reports of a run

A run gives one entry for each listed file, in the order of the list: what was done to the file,
or why nothing could be done.

Results:

* `tally_add`: the three tallies of a report add up to the number of its entries.
-/

namespace PageShell

/-! ## Entries -/

/-- Why a file could not be wrapped. -/
inductive FileError
  /-- There is no file at a path. -/
  | missing (path : String)
  | noRegion
  /-- The delimiter of the anchor at an offset is not closed. -/
  | unbalanced (anchor : Nat)
  /-- The file could not be read or written, for a reason in words. -/
  | io (reason : String)
  deriving DecidableEq, Repr

/-- The wording of the reason. -/
def FileError.message : FileError → String
  | missing path => "file not found: " ++ path
  | noRegion => "no anchor found"
  | unbalanced anchor => "unbalanced delimiters after anchor at byte " ++ toString anchor
  | io reason => "io error: " ++ reason

/-- What was done to a file, or would be done in a run that writes. -/
inductive Deed
  | wrapped
  | alreadyWrapped
  deriving DecidableEq, Repr

/-- The result for one listed file. -/
structure Entry where
  path : String
  /-- The category, if the file could be read. -/
  category : Option Category
  /-- The offset of the anchor, if there is one to speak of. -/
  anchor : Option Nat
  result : Except FileError Deed

namespace Entry

/-- Whether the file was wrapped, or would be. -/
def isWrapped (e : Entry) : Bool := e.result matches .ok .wrapped

/-- Whether the file had the wrapper already. -/
def isAlreadyWrapped (e : Entry) : Bool := e.result matches .ok .alreadyWrapped

/-- Whether the file failed. -/
def isFailure (e : Entry) : Bool := e.result matches .error _

end Entry

/-- The results of a run. -/
structure Report where
  dryRun : Bool
  entries : List Entry

namespace Report

/-! ## Tallies -/

/-- How many files were wrapped, or would be. -/
def wrapped (r : Report) : Nat := r.entries.countP Entry.isWrapped

/-- How many files had the wrapper already. -/
def alreadyWrapped (r : Report) : Nat := r.entries.countP Entry.isAlreadyWrapped

/-- How many files failed. -/
def failed (r : Report) : Nat := r.entries.countP Entry.isFailure

theorem tally_add (r : Report) : r.wrapped + r.alreadyWrapped + r.failed = r.entries.length := by
  unfold wrapped alreadyWrapped failed
  induction r.entries with
  | nil => rfl
  | cons e es ih =>
    simp only [List.countP_cons, List.length_cons]
    have h : (if e.isWrapped then 1 else 0) + (if e.isAlreadyWrapped then 1 else 0) +
        (if e.isFailure then 1 else 0) = 1 := by
      unfold Entry.isWrapped Entry.isAlreadyWrapped Entry.isFailure
      rcases e.result with _ | (_ | _) <;> rfl
    omega

/-! ## Lines -/

/-- What is said about a file, before its details. -/
def headline (colours dryRun : Bool) (e : Entry) : String :=
  match e.result with
  | .ok .wrapped =>
    Colour.paint colours .green ((if dryRun then "✅ Would wrap: " else "✅ Wrapped: ") ++ e.path)
  | .ok .alreadyWrapped => "✓  Already wrapped: " ++ e.path
  | .error (.missing _) => Colour.paint colours .yellow ("⚠️  File not found: " ++ e.path)
  | .error error => Colour.paint colours .red ("❌ " ++ error.message ++ ": " ++ e.path)

/-- The details of an entry: its category and the place of its anchor. -/
def details (e : Entry) : List String :=
  (e.category.map ("category=" ++ ·.label)).toList ++
    (e.anchor.map ("anchor@" ++ toString ·)).toList

/-- The line of an entry, with details if the report is verbose and there are any. -/
def line (colours verbose dryRun : Bool) (e : Entry) : String :=
  if verbose && !(details e).isEmpty then
    headline colours dryRun e ++ " " ++
      Colour.paint colours .dimmed ("(" ++ ", ".intercalate (details e) ++ ")")
  else headline colours dryRun e

/-- The lines below the entries. -/
def summary (colours : Bool) (r : Report) : List String :=
  ["", "📊 " ++ Colour.paint colours .bold "Results:",
    "   ✅ " ++ (if r.dryRun then "Would wrap: " else "Wrapped: ") ++ toString r.wrapped,
    "   ✓  Already wrapped: " ++ toString r.alreadyWrapped,
    "   ⚠️  Errors: " ++ toString r.failed] ++
  if r.dryRun then ["", Colour.paint colours .brightBlue "Dry run: no files were written."] else []

/-- All lines of a report. -/
def lines (colours verbose : Bool) (r : Report) : List String :=
  r.entries.map (line colours verbose r.dryRun) ++ r.summary colours

end Report

end PageShell
