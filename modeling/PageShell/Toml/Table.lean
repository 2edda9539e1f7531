import PageShell.Data

/-!
# Tables under construction

While a TOML document is read its tables remember how they came about, because that decides which
statements may add to them.
-/

namespace PageShell.Toml

/-- How a table came about. -/
inductive Origin
  /-- By its own header. -/
  | header
  /-- By the header of a table below it. -/
  | implied
  /-- By a dotted key. -/
  | dotted
  deriving DecidableEq, Repr

/-- What a key of a table stands for. -/
inductive Node
  | value (d : Data)
  | table (origin : Origin) (entries : List (String × Node))
  /-- A list of tables, the oldest first. -/
  | tables (items : List (List (String × Node)))

/-- The keys of a table and what they stand for, in the order of their appearance. -/
abbrev Table := List (String × Node)

namespace Table

/-! ## Entries -/

/-- What a key stands for. -/
def node? (table : Table) (key : String) : Option Node :=
  (List.find? (·.1 == key) table).map (·.2)

/-- The table with something else under a key that it has. -/
def replace (table : Table) (key : String) (node : Node) : Table :=
  table.map fun entry => if entry.1 == key then (key, node) else entry

/-- The table with one more key. -/
def append (table : Table) (key : String) (node : Node) : Table := table ++ [(key, node)]

/-! ## Going down -/

/-- Changes the table below another one that a path of keys leads to. Missing tables on the way
are made. A path leads into the last table of a list. A path that is part of a dotted key does not
lead into tables with a header of their own. -/
def modify? (dotted : Bool) : List String → (Origin → Table → Option Table) → Origin → Table →
    Option Table
  | [], f, origin, table => f origin table
  | key :: path, f, _, table =>
    match table.node? key with
    | none => do
      let origin := if dotted then .dotted else .implied
      return table.append key (.table origin (← modify? dotted path f origin []))
    | some (.value _) => none
    | some (.table origin entries) =>
      if dotted && origin == .header then none
      else do return table.replace key (.table origin (← modify? dotted path f origin entries))
    | some (.tables items) =>
      match items.getLast? with
      | none => none
      | some last => do
        let last ← modify? dotted path f .header last
        return table.replace key (.tables (items.dropLast ++ [last]))

/-! ## Statements -/

/-- Gives a value to a dotted key in the table that a path of keys leads to. The key must be new,
and a dotted key adds only to tables that dotted keys made. -/
def assign? (path key : List String) (value : Data) (table : Table) : Option Table :=
  match key.getLast? with
  | none => none
  | some name =>
    modify? false path
      (modify? true key.dropLast fun origin entries =>
        if key.dropLast.isEmpty == (origin == .dotted) then none
        else match entries.node? name with
          | none => some (entries.append name (.value value))
          | some _ => none)
      .header table

/-- Opens the table that a path of keys leads to. It must be new, or implied by another. -/
def openTable? (key : List String) (table : Table) : Option Table :=
  match key.getLast? with
  | none => none
  | some name =>
    modify? false key.dropLast
      (fun _ entries =>
        match entries.node? name with
        | none => some (entries.append name (.table .header []))
        | some (.table .implied inner) => some (entries.replace name (.table .header inner))
        | some _ => none)
      .header table

/-- Adds a table to the list of tables that a path of keys leads to. -/
def nextTable? (key : List String) (table : Table) : Option Table :=
  match key.getLast? with
  | none => none
  | some name =>
    modify? false key.dropLast
      (fun _ entries =>
        match entries.node? name with
        | none => some (entries.append name (.tables [[]]))
        | some (.tables items) => some (entries.replace name (.tables (items ++ [[]])))
        | some _ => none)
      .header table

/-! ## Finished tables -/

mutual

/-- A finished node as data. -/
def nodeData : Node → Data
  | .value d => d
  | .table _ entries => .record (toFields entries)
  | .tables items => .list (tablesData items)

/-- The fields of a finished table. -/
def toFields : List (String × Node) → List (String × Data)
  | [] => []
  | (key, node) :: entries => (key, nodeData node) :: toFields entries

/-- Finished tables as data. -/
def tablesData : List (List (String × Node)) → List Data
  | [] => []
  | table :: tables => .record (toFields table) :: tablesData tables

end

end Table

end PageShell.Toml
