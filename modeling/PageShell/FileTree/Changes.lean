import PageShell.FileTree.Basic

/-!
# What has changed in a file tree

Two trees are compared location by location.
-/

namespace PageShell.FileTree

/-- Whether an item shows in listings, which leave directories out and do not tell modes. -/
def showsAlike : Option Item → Option Item → Bool
  | some (.file c _), some (.file d _) => c = d
  | some (.link s), some (.link t) => s = t
  | some (.file ..), _ | some (.link _), _ => false
  | _, some (.file ..) | _, some (.link _) => false
  | _, _ => true

/-- The locations of two trees, each once. -/
def locations (before after : FileTree) : List Location :=
  ((before.items ++ after.items).map (·.1)).eraseDups

/-- The locations of files and links that are new, other or gone, with what is there now. -/
def changes (before after : FileTree) : List (Location × Option Item) :=
  ((locations before after).filter fun loc =>
    !showsAlike (before.item? loc) (after.item? loc)).map fun loc => (loc, after.item? loc)

end PageShell.FileTree
