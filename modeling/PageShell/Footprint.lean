import PageShell.Command

/-!
# The paths that a command looks at

A command is carried out on a file tree that only has to hold what lies at these paths.
-/

namespace PageShell

/-- The directories around a directory, given by the names on the way up, and itself. -/
def Location.ancestors : List String → List Location
  | [] => [[]]
  | name :: above => (name :: above).reverse :: ancestors above

/-- The paths that are looked at to tell whether a path leads to a repository. -/
def Repository.footprint (path : String) : List String :=
  path :: ["HEAD", "objects", "refs", "config"].map (Path.join path)

/-- The paths that finding the root looks at. -/
def Root.footprint (dir : Location) : Option String → List String
  | some path => [path]
  | none =>
    (Location.ancestors dir.reverse).flatMap fun loc =>
      Repository.footprint (Path.ofLocation loc) ++
        Repository.footprint (Path.ofLocation (loc ++ [".git"]))

/-- The paths that files named `.git` make finding the root look at. -/
def Root.linkFootprint (tree : FileTree) (dir : Location) : List String :=
  (Location.ancestors dir.reverse).flatMap fun loc =>
    match (tree.readText loc ".git").toOption.bind Repository.pointer? with
    | none => []
    | some path => Repository.footprint (Path.join (Path.ofLocation loc) path)

/-- The path that loading the configuration looks at. -/
def Workspace.footprint (w : Workspace) : List String := [w.configPath]

/-- The paths that a command looks at beyond the configuration, when a configuration is given. -/
def Command.footprint (w : Workspace) (c : Config) : Command → List String
  | .run _ | .validate | .list => c.files.map w.resolve
  | .preview file => [w.resolve file]
  | .importList path => [path]
  | .exportTo path _ => [path]
  | _ => []

end PageShell
