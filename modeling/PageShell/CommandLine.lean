import PageShell.Command

/-!
# The command line

The arguments are read from left to right: options of the program, the name of a command, and
then options and words of that command. `--root` and `--verbose` may stand on either side of the
name, once on each.
-/

namespace PageShell.CommandLine

/-! ## Options -/

/-- The options on one side of the name of the command. -/
structure Options where
  root : Option String := none
  verbose : Bool := false
  dryRun : Bool := false
  format : Option String := none
  deriving DecidableEq, Repr

/-- The options that take a value. -/
inductive Valued
  | root
  | format
  deriving DecidableEq, Repr

/-- The names of the commands. -/
inductive Name
  | init
  | run
  | preview
  | classify
  | validate
  | list
  | add
  | remove
  | importList
  | exportTo
  deriving DecidableEq, Repr

namespace Name

/-- The command with a given name. -/
def ofWord? : String → Option Name
  | "init" => some init
  | "run" => some run
  | "preview" => some preview
  | "classify" => some classify
  | "validate" => some validate
  | "list" => some list
  | "add" => some add
  | "remove" => some remove
  | "import" => some .importList
  | "export" => some .exportTo
  | _ => none

/-- How many words a command takes at most. -/
def maxWords? : Name → Option Nat
  | init | run | validate | list => some 0
  | preview | importList | exportTo => some 1
  | classify | add | remove => none

/-- Whether the words of a command are paths, which cannot be empty. -/
def takesPath : Name → Bool
  | importList | exportTo => true
  | _ => false

end Name

/-! ## Reading -/

/-- Why reading ends before the last argument: they make no sense, or help or the version is asked
for. -/
inductive Stop
  | usage
  | help
  | version
  deriving DecidableEq, Repr

/-- How reading ends when help on something is asked for: on the program, or on one command. -/
def helpOn : List String → Stop
  | [] => .help
  | [w] => if w = "help" ∨ (Name.ofWord? w).isSome then .help else .usage
  | _ => .usage

/-- What has been read. -/
structure State where
  /-- The options before the name of the command. -/
  outer : Options := {}
  name : Option Name := none
  /-- The options on this side of the name. -/
  options : Options := {}
  /-- The words of the command, latest first. -/
  words : List String := []
  /-- An option whose value comes next. -/
  awaiting : Option Valued := none
  /-- Whether only words follow. -/
  onlyWords : Bool := false
  deriving DecidableEq, Repr

namespace State

/-- Sets an option that is either there or not. It cannot be there twice. -/
def setFlag (s : State) (isSet : Options → Bool) (set : Options → Options) : Except Stop State :=
  if isSet s.options then .error .usage else .ok { s with options := set s.options }

/-- Turns details on. -/
def setVerbose (s : State) : Except Stop State :=
  s.setFlag (·.verbose) ({ · with verbose := true })

/-- Turns writing off. -/
def setDryRun (s : State) : Except Stop State :=
  if s.name = some .run then s.setFlag (·.dryRun) ({ · with dryRun := true }) else .error .usage

/-- Gives a value to an option. No option gets two, and the root cannot be empty. -/
def setValue (s : State) (value : String) : Valued → Except Stop State
  | .root =>
    if value = "" then .error .usage
    else s.setFlag (·.root.isSome) ({ · with root := some value })
  | .format => s.setFlag (·.format.isSome) ({ · with format := some value })

/-- An option that takes a value, with its value if it is attached. -/
def valued (s : State) (o : Valued) : Option String → Except Stop State
  | some value => s.setValue value o
  | none => .ok { s with awaiting := some o }

/-- An argument that begins with two hyphens. -/
def long (s : State) (option : String) (value : Option String) : Except Stop State :=
  match option, value with
  | "help", none => .error .help
  | "version", none => .error (if s.name.isNone then .version else .usage)
  | "verbose", none => s.setVerbose
  | "dry-run", none => s.setDryRun
  | "root", value => s.valued .root value
  | "format", value => if s.name = some .exportTo then s.valued .format value else .error .usage
  | _, _ => .error .usage

/-- A letter of an argument that begins with one hyphen. -/
def short (s : State) : Char → Except Stop State
  | 'v' => s.setVerbose
  | 'h' => .error .help
  | 'V' => .error (if s.name.isNone then .version else .usage)
  | _ => .error .usage

/-- A word: the name of the command, or a word of the command if it takes one more. -/
def word (s : State) (w : String) : Except Stop State :=
  match s.name with
  | none =>
    match Name.ofWord? w with
    | none => .error .usage
    | some name => .ok { s with outer := s.options, options := {}, name := some name }
  | some name =>
    if name.maxWords?.any (· ≤ s.words.length) || (name.takesPath && w = "") then .error .usage
    else .ok { s with words := w :: s.words }

/-- Whether an argument begins with a hyphen and goes on. -/
def isOption (arg : String) : Bool := arg.toList.head? == some '-' && arg != "-"

/-- Reads an argument. -/
def step (s : State) (arg : String) : Except Stop State :=
  match s.awaiting with
  | some o =>
    if isOption arg then .error .usage else { s with awaiting := none }.setValue arg o
  | none =>
    if s.onlyWords || !isOption arg then s.word arg
    else if arg = "--" then
      if s.name.isNone then .error .usage else .ok { s with onlyWords := true }
    else
      match arg.toList with
      | '-' :: '-' :: rest =>
        let value :=
          match rest.dropWhile (· != '=') with
          | [] => none
          | _ :: value => some (String.ofList value)
        s.long (String.ofList (rest.takeWhile (· != '='))) value
      | _ :: letters => letters.foldlM short s
      | [] => .error .usage

/-- Whether an argument is the name of the command that gives help. -/
def asksHelp (s : State) (arg : String) : Bool :=
  s.name.isNone && s.awaiting.isNone && arg = "help"

/-- Reads arguments up to the last. -/
def readAll : State → List String → Except Stop State
  | s, [] => .ok s
  | s, arg :: rest =>
    if s.asksHelp arg then .error (helpOn rest)
    else
      match s.step arg with
      | .error stop => .error stop
      | .ok s => s.readAll rest

/-- The command that has been read. -/
def command (s : State) : Except Stop Command :=
  match s.awaiting, s.name, s.words.reverse with
  | none, some .init, [] => .ok .init
  | none, some .run, [] => .ok (.run s.options.dryRun)
  | none, some .preview, [file] => .ok (.preview file)
  | none, some .classify, path :: paths => .ok (.classify (path :: paths))
  | none, some .validate, [] => .ok .validate
  | none, some .list, [] => .ok .list
  | none, some .add, file :: files => .ok (.add (file :: files))
  | none, some .remove, file :: files => .ok (.remove (file :: files))
  | none, some .importList, [path] => .ok (.importList path)
  | none, some .exportTo, [path] => .ok (.exportTo path (s.options.format.getD "toml"))
  | _, _, _ => .error .usage

end State

/-- What the arguments ask for. -/
structure Request where
  command : Command
  root : Option String
  verbose : Bool
  deriving DecidableEq, Repr

/-- Reads the arguments. An option behind the name of the command counts before one in front of
it. -/
def read (args : List String) : Except Stop Request := do
  let s ← State.readAll {} args
  return {
    command := ← s.command
    root := s.options.root.or s.outer.root
    verbose := s.options.verbose || s.outer.verbose }

/-! ## The whole program -/

/-- What the program leaves behind. -/
structure Exit where
  code : Nat
  output : String
  errors : String
  deriving DecidableEq, Repr

/-- The name and version of the program. -/
def versionLine : String := "layout-wrap 0.1.0\n"

/-- What the program writes beside its output: the log, notices, and what failed. -/
def errors (verbose : Bool) (r : Response) : String :=
  Response.ofLines ((r.log.filter (·.isShown verbose)).map (·.line)) ++ r.notices ++
    (r.failure.map fun f => "Error: " ++ f.headline ++ "\n").getD ""

/-- Runs the program in a current directory. -/
def run [PatternReader] (tree : FileTree) (dir : Location) (colours : Bool) (args : List String) :
    Exit × FileTree :=
  match read args with
  | .error .usage => (⟨2, "", ""⟩, tree)
  | .error .help => (⟨0, "", ""⟩, tree)
  | .error .version => (⟨0, versionLine, ""⟩, tree)
  | .ok request =>
    let (response, tree) :=
      request.command.perform ⟨request.root, dir, request.verbose, colours⟩ tree
    (⟨if response.failure.isSome then 1 else 0, response.output, errors request.verbose response⟩,
      tree)

end PageShell.CommandLine
