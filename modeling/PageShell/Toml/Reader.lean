import PageShell.Toml.Statement

/-!
# Reading TOML documents

The statements of a document are carried out one after the other, from the empty table on.

Results:

* `carryOut?_append`: statements are carried out from the front.
-/

namespace PageShell.Toml

/-- The tables made so far, and the path to the one that is open. -/
structure Document where
  table : Table := []
  path : List String := []

namespace Document

/-- The document after one more statement, unless the statement breaks the rules. -/
def step? (doc : Document) : Statement → Option Document
  | .assign key value => (doc.table.assign? doc.path key value).map (⟨·, doc.path⟩)
  | .table key => (doc.table.openTable? key).map (⟨·, key⟩)
  | .nextTable key => (doc.table.nextTable? key).map (⟨·, key⟩)

/-- The document after some statements. -/
def carryOut? (doc : Document) (statements : List Statement) : Option Document :=
  statements.foldlM step? doc

theorem carryOut?_append (doc : Document) (xs ys : List Statement) :
    doc.carryOut? (xs ++ ys) = (doc.carryOut? xs).bind (·.carryOut? ys) := by
  simp [carryOut?, List.foldlM_append]

end Document

/-- A text without the byte order mark at its start. -/
def dropByteOrderMark : Text → Text
  | '\uFEFF' :: rest => rest
  | t => t

/-- The fields of the record that a document holds. -/
def read? (t : Text) : Option (List (String × Data)) := do
  let t := dropByteOrderMark t
  let doc ← Document.carryOut? {} (← statements? (t.length + 1) t)
  return Table.toFields doc.table

end PageShell.Toml
