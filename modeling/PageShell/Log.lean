/-!
# Log records

Work on pages is accompanied by records. A record has a level and names the activity that it
comes from; where and whether it is shown is for the outer layer to decide.
-/

namespace PageShell.Log

/-- How much a record matters. -/
inductive Level
  | debug
  | info
  | warn
  deriving DecidableEq, Repr

/-- The upper-case name of a level. -/
def Level.label : Level → String
  | debug => "DEBUG"
  | info => "INFO"
  | warn => "WARN"

/-- The activities that leave records. -/
inductive Source
  /-- The search for the root of the workspace. -/
  | root
  /-- The search for the region to wrap. -/
  | anchor
  /-- The run over the listed files. -/
  | run
  deriving DecidableEq, Repr

/-- The name under which records of an activity are shown. -/
def Source.label : Source → String
  | root => "layout_wrap::core::workspace"
  | anchor => "layout_wrap::builders::locator"
  | run => "layout_wrap::core::engine"

/-- One record. -/
structure Record where
  level : Level
  source : Source
  text : String
  deriving DecidableEq, Repr

namespace Record

/-- A record as level and text. -/
def brief (r : Record) : String := r.level.label ++ " " ++ r.text

/-- A record as a line of the log, with room for a level of five letters. -/
def line (r : Record) : String :=
  let label := r.level.label
  "[" ++ label ++ String.ofList (List.replicate (5 - label.length) ' ') ++ " " ++
    r.source.label ++ "] " ++ r.text

/-- Whether a record is shown: those of level `debug` are only shown on request. -/
def isShown (verbose : Bool) (r : Record) : Bool := verbose || r.level != .debug

end Record

end PageShell.Log
