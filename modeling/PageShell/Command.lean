import PageShell.Root
import PageShell.Run

/-!
# Commands

Each command finds the root of its workspace, does its work on the file tree and says what it has
done. A command that fails leaves the file tree as it was.
-/

namespace PageShell

/-- What the program can be asked to do. -/
inductive Command
  /-- Write the default configuration. -/
  | init
  /-- Wrap the listed files. -/
  | run (dryRun : Bool)
  /-- Show the wrapped text of a file. -/
  | preview (file : String)
  /-- Show the categories of paths. -/
  | classify (paths : List String)
  /-- Look for problems of the configuration. -/
  | validate
  /-- Show the listed files. -/
  | list
  /-- Add files to the list. -/
  | add (files : List String)
  /-- Remove files from the list. -/
  | remove (files : List String)
  /-- Add the entries of a list file to the list. -/
  | importList (path : String)
  /-- Write the configuration to a file, in the format of a name. -/
  | exportTo (path : String) (format : String)
  deriving DecidableEq, Repr

/-- The circumstances of a command. -/
structure Circumstances where
  /-- The root that was asked for. -/
  root : Option String
  /-- The current directory. -/
  dir : Location
  verbose : Bool := false
  /-- Whether reports are coloured. -/
  colours : Bool := false

/-- What a command says. -/
structure Response where
  output : String := ""
  /-- What is said beside the output. -/
  notices : String := ""
  log : List Log.Record := []
  failure : Option Failure := none
  deriving DecidableEq, Repr

namespace Response

/-- Lines, each with its end. -/
def ofLines (lines : List String) : String := String.join (lines.map (· ++ "\n"))

/-- The response of a command that fails. -/
def ofFailure (f : Failure) : Response := { failure := some f }

/-- The response of a command that says some lines. -/
def ofOutput (lines : List String) : Response := { output := ofLines lines }

end Response

namespace Command

/-! ## Responses -/

/-- The response that shows the wrapped text of a file. -/
def previewResponse (runner : Runner) (file : String) (page : Except FileError Runner.Page) :
    Except Failure Response :=
  match page with
  | .error e => .error (.noPreview file e)
  | .ok found => .ok {
      output := String.ofList found.after
      notices := file ++ ": " ++ found.outcome.label ++ " (" ++ found.category.label ++ ")\n"
      log := runner.previewLog file page }

/-- The response that shows the categories of paths. -/
def classifyResponse (c : Config) (paths : List String) : Response :=
  .ofOutput (paths.map fun path => path ++ ": " ++ (c.classify path).label)

/-- The response about the issues of a configuration. It is a failure if there are any. -/
def validateResponse (issues : List Issue) : Response :=
  if issues.isEmpty then .ofOutput ["✓ Configuration is valid."]
  else
    let lines := issues.map fun issue => "  - " ++ issue.message
    { Response.ofOutput ("⚠️  Found issues in configuration:" :: lines) with
      failure := some .invalidConfig }

/-- The response about a configuration file that is there now. -/
def initResponse (w : Workspace) (created : Bool) : Response :=
  let line :=
    if created then "✓ Created " ++ w.configPath
    else "✓ Configuration already present at " ++ w.configPath
  .ofOutput [line, "Run 'layout-wrap run --dry-run' to preview the changes"]

/-- The response about a run. -/
def runResponse (s : Circumstances) (c : Config) (report : Report) (log : List Log.Record) :
    Response :=
  let lines := report.lines s.colours (s.verbose || c.verbose)
  { Response.ofOutput ("🚀 Wrapping pages..." :: "" :: lines) with log }

/-- The response about files that have been added. -/
def addResponse (added : Nat) : Response := .ofOutput ["✓ Added " ++ toString added ++ " file(s)"]

/-- The response about entries that have been removed. -/
def removeResponse (removed : Nat) : Response :=
  .ofOutput ["✓ Removed " ++ toString removed ++ " file(s)"]

/-- The response about a list file that has been imported. -/
def importResponse (path : String) (imported : Nat) : Response :=
  .ofOutput ["✓ Imported " ++ toString imported ++ " new file(s) from " ++ path]

/-- The response about a configuration that has been exported. -/
def exportResponse (path : String) : Response :=
  .ofOutput ["✓ Exported configuration to " ++ path]

/-! ## Commands that only look -/

/-- Shows the wrapped text of a file. -/
def performPreview [PatternReader] (w : Workspace) (tree : FileTree) (file : String) :
    Except Failure Response := do
  let runner ← Runner.load w tree
  previewResponse runner file (runner.preview tree file)

/-- Shows the categories of paths. -/
def performClassify (w : Workspace) (tree : FileTree) (paths : List String) :
    Except Failure Response := do
  return classifyResponse (← w.load tree) paths

/-- Shows the issues of the configuration. It fails if there are any. -/
def performValidate [PatternReader] (w : Workspace) (tree : FileTree) :
    Except Failure Response := do
  return validateResponse (w.issues tree (← w.load tree))

/-- Shows the listed files. -/
def performList (w : Workspace) (tree : FileTree) : Except Failure Response := do
  return .ofOutput (w.listLines tree (← w.load tree))

/-! ## Commands that write -/

/-- Writes the default configuration. -/
def performInit (w : Workspace) (tree : FileTree) : Except Failure (Response × FileTree) := do
  let (created, tree) ← w.init tree
  return (initResponse w created, tree)

/-- Wraps the listed files. -/
def performRun [PatternReader] (s : Circumstances) (w : Workspace) (tree : FileTree)
    (dryRun : Bool) : Except Failure (Response × FileTree) := do
  let runner ← Runner.load w tree
  let result := runner.run dryRun tree
  return (runResponse s runner.config result.report result.log, result.tree)

/-- Adds files to the list. -/
def performAdd (w : Workspace) (tree : FileTree) (files : List String) :
    Except Failure (Response × FileTree) := do
  let (added, tree) ← w.addFiles tree files
  return (addResponse added, tree)

/-- Removes files from the list. -/
def performRemove (w : Workspace) (tree : FileTree) (files : List String) :
    Except Failure (Response × FileTree) := do
  let (removed, tree) ← w.removeFiles tree files
  return (removeResponse removed, tree)

/-- Adds the entries of a list file to the list. -/
def performImport (w : Workspace) (tree : FileTree) (path : String) :
    Except Failure (Response × FileTree) := do
  let (imported, tree) ← w.importFiles tree path
  return (importResponse path imported, tree)

/-- Writes the configuration to a file. -/
def performExport (w : Workspace) (tree : FileTree) (path format : String) :
    Except Failure (Response × FileTree) := do
  let tree ← w.exportConfig tree path (.ofName format)
  return (exportResponse path, tree)

/-! ## All commands -/

/-- Whether a command only looks. -/
def isReadOnly : Command → Bool
  | run dryRun => dryRun
  | preview _ | classify _ | validate | list => true
  | _ => false

/-- A response with the tree that it was found in. -/
def unchanged (tree : FileTree) (response : Except Failure Response) :
    Except Failure (Response × FileTree) := response.map (·, tree)

/-- Carries out a command in a workspace. -/
def performIn [PatternReader] (s : Circumstances) (w : Workspace) (tree : FileTree) :
    Command → Except Failure (Response × FileTree)
  | init => performInit w tree
  | run dryRun => performRun s w tree dryRun
  | preview file => unchanged tree (performPreview w tree file)
  | classify paths => unchanged tree (performClassify w tree paths)
  | validate => unchanged tree (performValidate w tree)
  | list => unchanged tree (performList w tree)
  | add files => performAdd w tree files
  | remove files => performRemove w tree files
  | importList path => performImport w tree path
  | exportTo path format => performExport w tree path format

/-- Carries out a command. -/
def perform [PatternReader] (s : Circumstances) (tree : FileTree) (c : Command) :
    Response × FileTree :=
  match Root.resolve tree s.dir s.root with
  | .error f => (.ofFailure f, tree)
  | .ok found =>
    match c.performIn s ⟨found.root, s.dir⟩ tree with
    | .error f => ({ Response.ofFailure f with log := found.log }, tree)
    | .ok (response, tree) => ({ response with log := found.log ++ response.log }, tree)

end Command

end PageShell
