import PageShell.FileTree.Edit
import PageShell.Text.Blank

/-!
# Git repositories

A repository is a directory of a certain layout. It belongs to the directory that holds it under
the name `.git`, or that holds a file of that name which points to it. Its work tree is the
directory above it, unless its settings name another one or say that it has none.
-/

namespace PageShell.Repository

/-! ## The repository around a directory -/

/-- Whether a location holds a file. -/
def isFile (tree : FileTree) (loc : Location) : Bool :=
  match tree.locate [] (Path.ofLocation loc) with
  | .ok loc => (tree.item? loc).any fun | .file .. => true | _ => false
  | .error _ => false

/-- Whether a location holds a directory. -/
def isDirectory (tree : FileTree) (loc : Location) : Bool :=
  tree.isDirectory [] (Path.ofLocation loc)

/-- Whether a location holds a directory that is laid out as a repository. -/
def isRepository (tree : FileTree) (loc : Location) : Bool :=
  isDirectory tree loc && isFile tree (loc ++ ["HEAD"]) &&
    isDirectory tree (loc ++ ["objects"]) && isDirectory tree (loc ++ ["refs"])

/-- The path that the text of a file named `.git` points to. -/
def pointer? (t : Text) : Option String :=
  let line := (Text.trimEnd t).map fun c => if c = '\\' then '/' else c
  let mark := ['g', 'i', 't', 'd', 'i', 'r', ':']
  if mark.isPrefixOf line && mark != line then
    some (String.ofList ((line.drop mark.length).dropWhile Unicode.isBlank))
  else none

/-- What a directory holds. -/
inductive Holding
  | repository (loc : Location)
  /-- A file named `.git` that points to no repository. -/
  | broken
  | nothing
  deriving DecidableEq, Repr

/-- The repository that a file named `.git` in a directory points to. -/
def linked (tree : FileTree) (dir : Location) (content : Content) : Holding :=
  match content with
  | .binary _ => .broken
  | .text t =>
    match pointer? t with
    | none => .broken
    | some path =>
      match tree.locate dir path with
      | .error _ => .broken
      | .ok loc => if isRepository tree loc then .repository loc else .broken

/-- The repository that a directory holds under the name `.git`, or that it is itself. -/
def heldBy (tree : FileTree) (dir : Location) : Holding :=
  let itself := if isRepository tree dir then .repository dir else .nothing
  match tree.locate dir ".git" with
  | .error _ => itself
  | .ok loc =>
    match tree.item? loc with
    | some (.file content _) => linked tree dir content
    | _ => if isRepository tree loc then .repository loc else itself

/-- The repository around a directory, given by the names on the way up. -/
def find? (tree : FileTree) : List String → Option Location
  | [] =>
    match heldBy tree [] with
    | .repository loc => some loc
    | _ => none
  | name :: above =>
    match heldBy tree (name :: above).reverse with
    | .repository loc => some loc
    | .broken => none
    | .nothing => find? tree above

/-! ## Settings -/

/-- A setting of a repository. A key may stand without a value. -/
structure Setting where
  heading : Text
  key : Text
  value : Option Text
  deriving DecidableEq, Repr

/-- A value as it is meant: without quotes, and up to a comment. -/
def plainValue (quoted : Bool) : Text → Text
  | [] => []
  | '"' :: rest => plainValue (!quoted) rest
  | '\\' :: c :: rest => c :: plainValue quoted rest
  | c :: rest => if !quoted && (c == '#' || c == ';') then [] else c :: plainValue quoted rest

/-- Whether a character may stand in a key. -/
def isKeyCharacter (c : Char) : Bool := c.isAlphanum || c == '-'

/-- Reads what stands on a line under a heading: a setting, or none. -/
def setting? (heading line : Text) : Option (List Setting) :=
  match line.dropWhile Unicode.isBlank with
  | [] | '#' :: _ | ';' :: _ => some []
  | line =>
    let key := (line.takeWhile isKeyCharacter).map Char.toLower
    if key.isEmpty then none
    else
      match (line.dropWhile isKeyCharacter).dropWhile Unicode.isBlank with
      | [] | '#' :: _ | ';' :: _ => some [⟨heading, key, none⟩]
      | '=' :: value => some [⟨heading, key, some (Text.trim (plainValue false value))⟩]
      | _ => none

/-- Reads settings from lines, the first of which stand under a heading. -/
def settings? (heading : Text) : List Text → Option (List Setting)
  | [] => some []
  | line :: lines =>
    match line.dropWhile Unicode.isBlank with
    | '[' :: rest =>
      match rest.dropWhile (· != ']') with
      | [] => none
      | _ :: behind =>
        let heading := (rest.takeWhile (· != ']')).map Char.toLower
        (setting? heading behind).bind fun first => (settings? heading lines).map (first ++ ·)
    | line => (setting? heading line).bind fun first => (settings? heading lines).map (first ++ ·)

/-- The last setting with a heading and a key. -/
def lookup? (settings : List Setting) (heading key : String) : Option (Option Text) :=
  (settings.findRev? fun s => s.heading == heading.toList && s.key == key.toList).map (·.value)

/-- The number that a value stands for. -/
def number? (value : Text) : Option Nat :=
  if value.isEmpty || !value.all Char.isDigit then none
  else some (Nat.ofDigitChars 10 value 0)

/-- Whether a value means yes. A key without a value does. -/
def truth? : Option Text → Option Bool
  | none => some true
  | some value =>
    let word := String.ofList (value.map Char.toLower)
    if word ∈ ["true", "yes", "on"] then some true
    else if word ∈ ["false", "no", "off", ""] then some false
    else (number? value).map (· != 0)

/-- The latest version of the layout that is understood. -/
def latestVersion : Nat := 1

/-- Whether settings ask for no later layout than the latest one. -/
def isUnderstood (settings : List Setting) : Bool :=
  match lookup? settings "core" "repositoryformatversion" with
  | none => true
  | some value => (value.bind number?).any (· ≤ latestVersion)

/-! ## Work trees -/

/-- The settings of a repository. -/
def settingsOf? (tree : FileTree) (loc : Location) : Option (List Setting) :=
  match tree.readText [] (Path.ofLocation (loc ++ ["config"])) with
  | .ok t => settings? [] (Text.lines t)
  | .error .notText => none
  | .error _ => some []

/-- What can be said of the work tree of a repository. -/
inductive WorkTree
  | located (loc : Location)
  /-- The repository has none. -/
  | absent
  /-- The repository cannot be used. -/
  | unusable
  deriving DecidableEq, Repr

/-- The work tree of a repository with some settings. -/
def workTree (tree : FileTree) (loc : Location) (settings : List Setting) : WorkTree :=
  match truth? ((lookup? settings "core" "bare").getD (some ['n', 'o'])) with
  | none => .unusable
  | some true => .absent
  | some false =>
    match lookup? settings "core" "worktree" with
    | some (some path) =>
      match tree.locate loc (String.ofList path) with
      | .ok loc => .located loc
      | .error _ => .unusable
    | _ => .located loc.dropLast

/-- The work tree of the repository at a location, which may hold another one under the name
`.git`. -/
def workTreeOf (tree : FileTree) (loc : Location) : WorkTree :=
  match heldBy tree loc with
  | .repository loc =>
    match settingsOf? tree loc with
    | none => .unusable
    | some settings =>
      if isUnderstood settings then workTree tree loc settings else .unusable
  | _ => .unusable

/-- The work tree of the repository around a directory. -/
def workTreeAround (tree : FileTree) (dir : Location) : WorkTree :=
  match find? tree dir.reverse with
  | none => .unusable
  | some loc => workTreeOf tree loc

end PageShell.Repository
