import PageShell.CommandLine
import PageShell.FileTree.Changes
import PageShell.Footprint

/-!
# The program

The program takes the part of the file system that a command looks at into a file tree, carries
the command out on it, and writes the files that have changed.
-/

namespace PageShell

/-- The canonical form of a path, if it leads to something. -/
def canonical? (path : String) : IO (Option String) := do
  try return some (toString (← IO.FS.realPath path)) catch _ => return none

/-- The location that an absolute path in canonical form names. -/
def locationOf (path : String) : Location := (Path.names path).filter (· != "")

/-- The tree with the directories on the way to a location. -/
def withDirectories (tree : FileTree) (loc : Location) : FileTree :=
  (List.range loc.length).foldl (fun tree n => tree.set (loc.take (n + 1)) .newDirectory) tree

/-- Takes what lies on the way that names lead from a directory into a tree. -/
def survey (tree : FileTree) (dir : Location) : List String → IO FileTree
  | [] => return tree
  | name :: rest => do
    if name == "" || name == "." then survey tree dir rest
    else if name == ".." then survey tree dir.dropLast rest
    else
      let loc := dir ++ [name]
      match ← canonical? (Path.ofLocation loc) with
      | none => return tree
      | some path =>
        let found := locationOf path
        let tree := if found == loc then tree else tree.set loc (.link path)
        if (← canonical? (path ++ "/.")).isSome then survey (withDirectories tree found) found rest
        else
          let bytes ← IO.FS.readBinFile path
          return (withDirectories tree found.dropLast).set found
            (.newFile (.ofBytes bytes.toList))

/-- Takes what lies at some paths into a tree. -/
def surveyAll (dir : Location) (tree : FileTree) (paths : List String) : IO FileTree :=
  paths.foldlM (fun tree path =>
    if '\x00' ∈ path.toList then return tree
    else survey tree (if Path.isAbsolute path then [] else dir) (Path.names path)) tree

/-- Takes what a request looks at into a tree. -/
def surveyFor (dir : Location) (request : CommandLine.Request) : IO FileTree := do
  let tree ← surveyAll dir (withDirectories {} dir) (Root.footprint dir request.root)
  let tree ← surveyAll dir tree (Root.linkFootprint tree dir)
  match Root.resolve tree dir request.root with
  | .error _ => return tree
  | .ok found =>
    let w : Workspace := ⟨found.root, dir⟩
    let tree ← surveyAll dir tree w.footprint
    match w.load tree with
    | .error _ => return tree
    | .ok c => surveyAll dir tree (request.command.footprint w c)

/-- Writes the files that differ between two trees. -/
def writeChanges (before after : FileTree) : IO Unit :=
  (FileTree.changes before after).forM fun
    | (loc, some (.file (.text t) _)) => IO.FS.writeFile (Path.ofLocation loc) (String.ofList t)
    | _ => return ()

end PageShell

open PageShell

/-- Runs the program with its arguments and gives its exit code. -/
def main (args : List String) : IO UInt32 := do
  let dir := locationOf (toString (← IO.currentDir))
  let before ←
    match CommandLine.read args with
    | .error _ => pure {}
    | .ok request => surveyFor dir request
  let colours ← (← IO.getStdout).isTty
  let (exit, after) := CommandLine.run before dir colours args
  writeChanges before after
  IO.print exit.output
  IO.eprint exit.errors
  return exit.code.toUInt32
