import PageShell.FileTree.Path

/-!
# Following paths

A path is followed name by name. Symbolic links on the way are replaced by their targets, and
only so many of them are followed. The name `..` leads to the directory above the one that has
been reached, wherever links have led.

Results:

* `walk_nil`: an empty list of names leads nowhere else.
* `isPresent_iff`: a path leads to something exactly if following it finds an item.
-/

namespace PageShell

/-- Why a file operation fails. -/
inductive FileFault
  | notFound
  | notDirectory
  | isDirectory
  | alreadyExists
  | nameTooLong
  | tooManyLinks
  /-- The path has a NUL character in it. -/
  | badPath
  /-- The file does not hold a text. -/
  | notText
  deriving DecidableEq, Repr

/-- The wording of the reason. -/
def FileFault.message : FileFault → String
  | notFound => "No such file or directory (os error 2)"
  | notDirectory => "Not a directory (os error 20)"
  | isDirectory => "Is a directory (os error 21)"
  | alreadyExists => "File exists (os error 17)"
  | nameTooLong => "File name too long (os error 36)"
  | tooManyLinks => "Too many levels of symbolic links (os error 40)"
  | badPath => "file name contained an unexpected NUL byte"
  | notText => "stream did not contain valid UTF-8"

namespace FileTree

/-- Where a path leads: to an item, or to a free name in a directory. -/
inductive Place
  | item (loc : Location)
  | free (loc : Location)
  deriving DecidableEq, Repr

/-- How many links may be followed on the way to an item. -/
def linkLimit : Nat := 40

/-- The greatest length of a name in bytes. -/
def nameLimit : Nat := 255

/-- The greatest length of a path in bytes. -/
def pathLimit : Nat := 4095

/-- Follows names from a directory, through at most `links` links. An empty name stays where it
is, which has to be a directory. -/
def walk (tree : FileTree) (links : Nat) (dir : Location) (names : List String) :
    Except FileFault Place :=
  match names with
  | [] => .ok (.item dir)
  | name :: rest =>
    if name = "" ∨ name = "." then tree.walk links dir rest
    else if name = ".." then tree.walk links dir.dropLast rest
    else if name.utf8ByteSize > nameLimit then .error .nameTooLong
    else match tree.item? (dir ++ [name]) with
      | none => if rest = [] then .ok (.free (dir ++ [name])) else .error .notFound
      | some (.directory _) => tree.walk links (dir ++ [name]) rest
      | some (.file ..) => if rest = [] then .ok (.item (dir ++ [name])) else .error .notDirectory
      | some (.link target) =>
        match links with
        | 0 => .error .tooManyLinks
        | links + 1 =>
          tree.walk links (if Path.isAbsolute target then [] else dir) (Path.names target ++ rest)
termination_by (links, names.length)

@[simp] theorem walk_nil (tree : FileTree) (links : Nat) (dir : Location) :
    tree.walk links dir [] = .ok (.item dir) := by
  unfold walk
  rfl

/-- Where a path leads from a directory. -/
def lookup (tree : FileTree) (dir : Location) (path : String) : Except FileFault Place :=
  if '\x00' ∈ path.toList then .error .badPath
  else if path = "" then .error .notFound
  else if path.utf8ByteSize > pathLimit then .error .nameTooLong
  else tree.walk linkLimit (if Path.isAbsolute path then [] else dir) (Path.names path)

/-- The location of the item that a path leads to. -/
def locate (tree : FileTree) (dir : Location) (path : String) : Except FileFault Location :=
  match tree.lookup dir path with
  | .error fault => .error fault
  | .ok (.free _) => .error .notFound
  | .ok (.item loc) => .ok loc

/-- Whether a path leads to an item. -/
def isPresent (tree : FileTree) (dir : Location) (path : String) : Bool :=
  (tree.locate dir path).isOk

theorem isPresent_iff (tree : FileTree) (dir : Location) (path : String) :
    tree.isPresent dir path = true ↔ ∃ loc, tree.lookup dir path = .ok (.item loc) := by
  unfold isPresent locate
  split <;> simp_all [Except.isOk, Except.toBool]

/-- Whether a path leads to a directory. -/
def isDirectory (tree : FileTree) (dir : Location) (path : String) : Bool :=
  match tree.locate dir path with
  | .error _ => false
  | .ok loc => (tree.item? loc).any Item.isDirectory

end FileTree

end PageShell
