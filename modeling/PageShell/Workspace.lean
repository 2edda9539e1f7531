import PageShell.Config.Format
import PageShell.Config.Issues
import PageShell.FileTree.Edit
import PageShell.Report

/-!
# Workspaces

A workspace is a directory with pages in it and, in most cases, a configuration file at its root.
The operations on a workspace read that file, or take the defaults if there is none, and write
the changed configuration back.

Results:

* `load_of_absent`: without a configuration file the default configuration counts.
-/

namespace PageShell

/-! ## Failures -/

/-- Why an operation on a workspace, or a command, fails. -/
inductive Failure
  | rootNotDirectory (path : String)
  | unreadableConfig (fault : FileFault)
  | malformedConfig
  | unwritableConfig (fault : FileFault)
  | unreadablePattern (pattern : String)
  | unreadableList (path : String) (fault : FileFault)
  | unwritableExport (fault : FileFault)
  | invalidConfig
  | noPreview (file : String) (error : FileError)
  deriving DecidableEq, Repr

namespace Failure

/-- What failed. -/
def headline : Failure → String
  | rootNotDirectory path => "Root is not a directory: " ++ path
  | unreadableConfig _ => "Failed to read config file"
  | malformedConfig => "Failed to parse config file"
  | unwritableConfig _ => "Failed to write config file"
  | unreadablePattern pattern => "Invalid anchor pattern: " ++ pattern
  | unreadableList path _ => "Failed to read import file " ++ path
  | unwritableExport _ => "Failed to write export file"
  | invalidConfig => "Configuration validation failed."
  | noPreview file _ => "Failed to preview " ++ file

/-- The reasons behind it, the nearest first. What the readers of patterns and of documents say of
a text that they refuse is left out. -/
def causes : Failure → List String
  | unreadableConfig fault => [fault.message]
  | unwritableConfig fault => [fault.message]
  | unreadableList _ fault => [fault.message]
  | unwritableExport fault => [fault.message]
  | noPreview _ (.io reason) => [(FileError.io reason).message, reason]
  | noPreview _ error => [error.message]
  | _ => []

/-- What failed and why. -/
def message (f : Failure) : String := ": ".intercalate (f.headline :: f.causes)

end Failure

/-! ## Workspaces -/

/-- A workspace, by the path of its root and the directory that relative paths start from. -/
structure Workspace where
  root : String
  dir : Location

namespace Workspace

/-- The name of the configuration file. -/
def configName : String := ".layout-wrap.toml"

/-- The path of the configuration file. -/
def configPath (w : Workspace) : String := Path.join w.root configName

/-- The path of a listed file. -/
def resolve (w : Workspace) (file : String) : String := Path.join w.root file

/-- Whether a listed file is there. -/
def isPresent (w : Workspace) (tree : FileTree) (file : String) : Bool :=
  tree.isPresent w.dir (w.resolve file)

/-! ## The configuration -/

/-- The configuration of the workspace. -/
def load (w : Workspace) (tree : FileTree) : Except Failure Config :=
  if tree.isPresent w.dir w.configPath then
    match tree.readText w.dir w.configPath with
    | .error fault => .error (.unreadableConfig fault)
    | .ok t => ((Config.ofToml? t).map .ok).getD (.error .malformedConfig)
  else .ok .default

/-- The tree with a configuration in the workspace. -/
def save (w : Workspace) (tree : FileTree) (c : Config) : Except Failure FileTree :=
  (tree.writeText w.dir w.configPath c.toToml).mapError .unwritableConfig

theorem load_of_absent {w : Workspace} {tree : FileTree}
    (h : tree.isPresent w.dir w.configPath = false) : w.load tree = .ok .default := by
  simp [load, h]

/-! ## Operations -/

/-- Writes the default configuration unless there is one, and says whether it did. -/
def init (w : Workspace) (tree : FileTree) : Except Failure (Bool × FileTree) :=
  if tree.isPresent w.dir w.configPath then .ok (false, tree)
  else (w.save tree .default).map (true, ·)

/-- Adds files to the list and says how many are new. -/
def addFiles (w : Workspace) (tree : FileTree) (new : List String) :
    Except Failure (Nat × FileTree) := do
  let c ← w.load tree
  let merged := FileList.merge c.files new
  let tree ← w.save tree { c with files := merged.files }
  return (merged.count, tree)

/-- Removes files from the list and says how many entries are gone. -/
def removeFiles (w : Workspace) (tree : FileTree) (gone : List String) :
    Except Failure (Nat × FileTree) := do
  let c ← w.load tree
  let files := FileList.remove c.files gone
  let tree ← w.save tree { c with files }
  return (c.files.length - files.length, tree)

/-- The entries of a list file. -/
def readList (w : Workspace) (tree : FileTree) (path : String) : Except Failure (List String) :=
  match tree.readText w.dir path with
  | .error fault => .error (.unreadableList path fault)
  | .ok t => .ok (FileList.parse t)

/-- Adds the entries of a list file to the list and says how many are new. -/
def importFiles (w : Workspace) (tree : FileTree) (path : String) :
    Except Failure (Nat × FileTree) := do
  w.addFiles tree (← w.readList tree path)

/-- Writes the configuration to a file in a format. -/
def exportConfig (w : Workspace) (tree : FileTree) (path : String) (format : Format) :
    Except Failure FileTree := do
  let c ← w.load tree
  (tree.writeText w.dir path (c.written format)).mapError .unwritableExport

/-- The issues of a configuration in the workspace. -/
def issues [PatternReader] (w : Workspace) (tree : FileTree) (c : Config) : List Issue :=
  c.issues (w.isPresent tree)

/-- The lines of the list of files, with their categories and whether they are there. -/
def listLines (w : Workspace) (tree : FileTree) (c : Config) : List String :=
  if c.files.isEmpty then ["No files configured."]
  else c.files.map fun file =>
    (if w.isPresent tree file then "📄 " else "❓ ") ++ file ++ " → " ++ (c.classify file).label

end Workspace

end PageShell
