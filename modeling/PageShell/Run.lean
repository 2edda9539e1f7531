import PageShell.Workspace

/-!
# Runs over the listed files

A run visits the files of a configuration one after the other. What fails for one file is noted
in its entry and does not keep the run from going on.

Results:

* `visit_dryRun`, `run_dryRun`: a dry run leaves the file tree as it is.
* `entries_length`: a run has one entry for each listed file.
-/

namespace PageShell

/-- A configuration put to use in a workspace. It keeps what it was made from, whatever happens
to the configuration file later. -/
structure Runner where
  workspace : Workspace
  config : Config
  wrapping : Wrapping

namespace Runner

/-- A runner for a configuration. -/
def ofConfig [PatternReader] (w : Workspace) (c : Config) : Except Failure Runner :=
  match c.wrapping? with
  | none => .error (.unreadablePattern c.anchor.pattern)
  | some wrapping => .ok ⟨w, c, wrapping⟩

/-- A runner for the configuration of a workspace. -/
def load [PatternReader] (w : Workspace) (tree : FileTree) : Except Failure Runner := do
  ofConfig w (← w.load tree)

/-! ## One file -/

/-- A listed file that could be read: its location, its text and what becomes of it. -/
structure Page where
  location : Location
  before : Text
  category : Category
  outcome : Outcome

/-- The text of a page afterwards. -/
def Page.after (p : Page) : Text := p.outcome.textAfter p.before

/-- What becomes of a listed file. -/
def preview (r : Runner) (tree : FileTree) (file : String) : Except FileError Page :=
  let path := r.workspace.resolve file
  match tree.locate r.workspace.dir path with
  | .error _ => .error (.missing path)
  | .ok location =>
    match tree.textAt location with
    | .error fault => .error (.io fault.message)
    | .ok before =>
      let category := r.config.classify file
      .ok ⟨location, before, category, r.wrapping.wrap category before⟩

/-- The records that looking at a listed file leaves. -/
def previewLog (r : Runner) (file : String) : Except FileError Page → List Log.Record
  | .error _ => []
  | .ok page =>
    ⟨.debug, .run, file ++ ": category " ++ page.category.label⟩ :: r.wrapping.wrapLog page.before

/-- The result for a page in a report. -/
def result : Outcome → Except FileError Deed
  | .wrapped .. => .ok .wrapped
  | .alreadyWrapped => .ok .alreadyWrapped
  | .noRegion => .error .noRegion
  | .unbalanced anchor => .error (.unbalanced anchor)

/-- The entry of a listed file in a report. -/
def entry (file : String) : Except FileError Page → Entry
  | .error e => ⟨file, none, none, .error e⟩
  | .ok page => ⟨file, some page.category, page.outcome.anchor?, result page.outcome⟩

/-- The tree after a page has been dealt with. -/
def commit (tree : FileTree) : Except FileError Page → FileTree
  | .ok ⟨location, _, _, .wrapped text _⟩ => tree.putText location text
  | _ => tree

/-- What dealing with a listed file gives. -/
structure Visit where
  entry : Entry
  tree : FileTree
  log : List Log.Record

/-- The record about a page that a dry run does not write. -/
def dryRunLog (file : String) : Except FileError Page → List Log.Record
  | .ok ⟨_, _, _, .wrapped ..⟩ => [⟨.debug, .run, file ++ ": dry run, not writing"⟩]
  | _ => []

/-- Deals with a listed file. A dry run writes nothing. -/
def visit (r : Runner) (dryRun : Bool) (tree : FileTree) (file : String) : Visit :=
  let page := r.preview tree file
  { entry := entry file page
    tree := if dryRun then tree else commit tree page
    log := r.previewLog file page ++ if dryRun then dryRunLog file page else [] }

@[simp] theorem visit_dryRun (r : Runner) (tree : FileTree) (file : String) :
    (r.visit true tree file).tree = tree := rfl

/-! ## All files -/

/-- What visiting some files gives. -/
structure Tour where
  entries : List Entry
  tree : FileTree
  log : List Log.Record

/-- The record about a file that failed. -/
def warning (e : Entry) : List Log.Record :=
  match e.result with
  | .error error => [⟨.warn, .run, e.path ++ ": " ++ error.message⟩]
  | .ok _ => []

/-- Visits files one after the other. -/
def tour (r : Runner) (dryRun : Bool) : FileTree → List String → Tour
  | tree, [] => ⟨[], tree, []⟩
  | tree, file :: files =>
    let first := r.visit dryRun tree file
    let others := r.tour dryRun first.tree files
    ⟨first.entry :: others.entries, others.tree, first.log ++ warning first.entry ++ others.log⟩

/-- What a run gives. -/
structure Result where
  report : Report
  tree : FileTree
  log : List Log.Record

/-- The record at the start of a run. -/
def startRecord (r : Runner) (dryRun : Bool) : Log.Record :=
  ⟨.info, .run, "processing " ++ toString r.config.files.length ++ " file(s)" ++
    if dryRun then " (dry run)" else ""⟩

/-- The record at the end of a run. -/
def endRecord (report : Report) : Log.Record :=
  ⟨.info, .run, "done: " ++ toString report.wrapped ++ " wrapped, " ++
    toString report.alreadyWrapped ++ " already wrapped, " ++ toString report.failed ++ " failed"⟩

/-- Visits all files of the configuration. -/
def run (r : Runner) (dryRun : Bool) (tree : FileTree) : Result :=
  let tour := r.tour dryRun tree r.config.files
  let report : Report := ⟨dryRun, tour.entries⟩
  ⟨report, tour.tree, r.startRecord dryRun :: tour.log ++ [endRecord report]⟩

theorem tour_dryRun (r : Runner) (tree : FileTree) (files : List String) :
    (r.tour true tree files).tree = tree := by
  induction files with
  | nil => rfl
  | cons file files ih => simp [tour, ih]

theorem run_dryRun (r : Runner) (tree : FileTree) : (r.run true tree).tree = tree :=
  tour_dryRun r tree r.config.files

theorem tour_length (r : Runner) (dryRun : Bool) (tree : FileTree) (files : List String) :
    (r.tour dryRun tree files).entries.length = files.length := by
  induction files generalizing tree with
  | nil => rfl
  | cons file files ih => simp [tour, ih]

theorem entries_length (r : Runner) (dryRun : Bool) (tree : FileTree) :
    (r.run dryRun tree).report.entries.length = r.config.files.length :=
  tour_length r dryRun tree r.config.files

end Runner

end PageShell
