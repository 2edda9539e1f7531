import PageShell.Log
import PageShell.Repository
import PageShell.Workspace

/-!
# The root of a workspace

An explicit root counts if it is a directory. Otherwise the root is the work tree of the Git
repository around the current directory, or the current directory itself if there is none or the
repository has no work tree.
-/

namespace PageShell.Root

/-- The root of a workspace and the records that finding it leaves. -/
structure Found where
  root : String
  log : List Log.Record := []

/-- The root that counts in a current directory. -/
def implicit (tree : FileTree) (dir : Location) : Found :=
  match Repository.workTreeAround tree dir with
  | .unusable =>
    ⟨Path.ofLocation dir,
      [⟨.debug, .root, "not inside a git work tree, using current directory"⟩]⟩
  | .absent => ⟨Path.ofLocation dir, []⟩
  | .located [] => ⟨"/", []⟩
  | .located loc => ⟨Path.ofLocation loc ++ "/", []⟩

/-- The root of a workspace. -/
def resolve (tree : FileTree) (dir : Location) : Option String → Except Failure Found
  | some path =>
    if tree.isDirectory dir path then .ok ⟨path, []⟩ else .error (.rootNotDirectory path)
  | none => .ok (implicit tree dir)

end PageShell.Root
