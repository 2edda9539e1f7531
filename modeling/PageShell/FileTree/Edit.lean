import PageShell.FileTree.Lookup

/-!
# Reading and changing files

Every operation takes a path and the directory that a relative path starts from. An operation
that fails gives no tree, so that it cannot have changed anything.

Results:

* `textAt_putText`: a file that has been given a text holds it.
-/

namespace PageShell.FileTree

/-! ## Reading -/

/-- The text of the file at a location. -/
def textAt (tree : FileTree) (loc : Location) : Except FileFault Text :=
  match tree.item? loc with
  | some (.file (.text t) _) => .ok t
  | some (.file (.binary _) _) => .error .notText
  | some (.directory _) => .error .isDirectory
  | some (.link _) => .error .tooManyLinks
  | none => .error .notFound

/-- The text of the file that a path leads to. -/
def readText (tree : FileTree) (dir : Location) (path : String) : Except FileFault Text := do
  tree.textAt (← tree.locate dir path)

/-! ## Writing -/

/-- The tree with another content of the file at a location, whose mode is kept. -/
def putContent (tree : FileTree) (loc : Location) (content : Content) : FileTree :=
  match tree.item? loc with
  | some (.file _ mode) => tree.set loc (.file content mode)
  | _ => tree

/-- The tree with another text of the file at a location. -/
def putText (tree : FileTree) (loc : Location) (t : Text) : FileTree :=
  tree.putContent loc (.text t)

theorem textAt_putText {tree : FileTree} {loc : Location} {content : Content} {mode : Nat}
    (h : tree.item? loc = some (.file content mode)) (t : Text) :
    (tree.putText loc t).textAt loc = .ok t := by
  have hne : loc ≠ [] := by
    rintro rfl
    simp [item?, Item.newDirectory] at h
  simp [putText, putContent, h, textAt, item?_set_self _ hne]

/-- Writes a file. A link is followed, also to a file that is not there yet. A path that ends in
a separator can only mean a directory. -/
def write (tree : FileTree) (dir : Location) (path : String) (content : Content) :
    Except FileFault FileTree := do
  if Path.endsInSlash path then
    let parent := (Path.names path).reverse.dropWhile (· == "") |>.drop 1 |>.reverse
    match ← tree.walk linkLimit (if Path.isAbsolute path then [] else dir) (parent ++ [""]) with
    | .item _ => .error .isDirectory
    | .free _ => .error .notFound
  else
    match ← tree.lookup dir path with
    | .free loc => return tree.set loc (.newFile content)
    | .item loc =>
      match tree.item? loc with
      | some (.file _ mode) => return tree.set loc (.file content mode)
      | _ => .error .isDirectory

/-- Writes a text to a file. -/
def writeText (tree : FileTree) (dir : Location) (path : String) (t : Text) :
    Except FileFault FileTree := tree.write dir path (.text t)

/-! ## Directories, links and modes -/

/-- Makes the directories on the way that some names lead from a directory, as far as they are
missing, and gives the last one. -/
def makeDirectories (tree : FileTree) (dir : Location) :
    List String → Except FileFault (FileTree × Location)
  | [] => .ok (tree, dir)
  | name :: rest =>
    if name = "" ∨ name = "." then tree.makeDirectories dir rest
    else if name = ".." then tree.makeDirectories dir.dropLast rest
    else
      match tree.walk linkLimit dir [name] with
      | .error fault => .error fault
      | .ok (.free loc) => (tree.set loc .newDirectory).makeDirectories loc rest
      | .ok (.item loc) =>
        if (tree.item? loc).any Item.isDirectory then tree.makeDirectories loc rest
        else .error (if rest = [] then .alreadyExists else .notDirectory)

/-- The directory that a path names its last part in, with the missing directories made, and that
last part. -/
def makeParent (tree : FileTree) (dir : Location) (path : String) :
    Except FileFault (FileTree × Location × String) := do
  let names := Path.names path
  let (tree, parent) ←
    tree.makeDirectories (if Path.isAbsolute path then [] else dir) names.dropLast
  return (tree, parent, names.getLast?.getD "")

/-- Makes a directory and those around it. -/
def makeDirectory (tree : FileTree) (dir : Location) (path : String) :
    Except FileFault FileTree := do
  let (tree, _) ←
    tree.makeDirectories (if Path.isAbsolute path then [] else dir) (Path.names path)
  return tree

/-- Writes a file and makes the directories around it. -/
def writeWithParents (tree : FileTree) (dir : Location) (path : String) (content : Content) :
    Except FileFault FileTree := do
  let (tree, _) ← tree.makeParent dir path
  tree.write dir path content

/-- Makes a symbolic link and the directories around it. -/
def makeLink (tree : FileTree) (dir : Location) (path target : String) :
    Except FileFault FileTree := do
  let (tree, parent, name) ← tree.makeParent dir path
  match tree.item? (parent ++ [name]) with
  | some _ => .error .alreadyExists
  | none => return tree.set (parent ++ [name]) (.link target)

/-- Deletes what a path names: a file, a link, or a directory with all that is in it. -/
def delete (tree : FileTree) (dir : Location) (path : String) : Except FileFault FileTree := do
  let names := (Path.names path).reverse.dropWhile (· == "") |>.reverse
  let start := if Path.isAbsolute path then [] else dir
  match ← tree.walk linkLimit start (names.dropLast ++ [""]) with
  | .free _ => .error .notFound
  | .item parent =>
    let loc := parent ++ names.getLast?.toList
    match tree.item? loc with
    | none => .error .notFound
    | some _ => return ⟨tree.items.filter fun entry => !loc.isPrefixOf entry.1⟩

/-- The access mode of what a path leads to. -/
def mode (tree : FileTree) (dir : Location) (path : String) : Except FileFault Nat := do
  match tree.item? (← tree.locate dir path) with
  | some (.directory mode) => return mode
  | some (.file _ mode) => return mode
  | _ => .error .notFound

/-- Gives another access mode to what a path leads to. -/
def setMode (tree : FileTree) (dir : Location) (path : String) (mode : Nat) :
    Except FileFault FileTree := do
  let loc ← tree.locate dir path
  match tree.item? loc with
  | some (.directory _) => return tree.set loc (.directory mode)
  | some (.file content _) => return tree.set loc (.file content mode)
  | _ => .error .notFound

end PageShell.FileTree
