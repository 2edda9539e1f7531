import PageShell.FileTree.Basic

/-!
# Paths

A path is a text that leads to an item of a file tree. It starts at the top if it begins with
`/`, and otherwise at some directory.
-/

namespace PageShell.Path

/-- Whether a path starts at the top. -/
def isAbsolute (path : String) : Bool := path.toList.head? == some '/'

/-- Whether a path ends in a separator. -/
def endsInSlash (path : String) : Bool := path.toList.getLast? == some '/'

/-- A path behind another one. An absolute path stands for itself. -/
def join (base path : String) : String :=
  if isAbsolute path || base.isEmpty then path
  else if endsInSlash base then base ++ path
  else base ++ "/" ++ path

/-- The names in a path, in order. Between two separators in a row, and behind one at the end,
there is an empty name. -/
def names (path : String) : List String :=
  (Text.fields (· == '/') path.toList).map String.ofList

/-- The absolute path of a location. -/
def ofLocation : Location → String
  | [] => "/"
  | loc => String.join (loc.map ("/" ++ ·))

end PageShell.Path
