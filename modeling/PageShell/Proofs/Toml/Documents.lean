import PageShell.Proofs.Toml.Statements
import PageShell.Toml.Reader

/-!
# Documents that are written are read

The statements of a written document are carried out one after the other. Plain fields become
values of the outermost table, and each section becomes an entry behind them, which the fields
below its header fill.

Results:

* `carryOut?_fields`: fields fill the table that is open, whether it stands alone or is the last one
  of a list.
* `carryOut?_section`, `carryOut?_sections`: a section becomes an entry.
* `read?_write`: a document is read as it was before it was written, characters as texts.
-/

namespace PageShell

namespace Data

/-- Flat fields as they are read. -/
def fieldsAsRead (fields : List (String × Data)) : List (String × Data) :=
  fields.map fun field => (field.1, field.2.flatAsRead)

/-- A table, or a list of tables, as it is read. -/
def tableAsRead : Data → Data
  | record fields => record (fieldsAsRead fields)
  | list items => list (items.map fun item => record (fieldsAsRead (Toml.fieldsOf item)))
  | d => d

end Data

namespace Toml

open Table

/-! ## Entries of a table -/

/-- Flat fields as the entries of a table. -/
def entriesOf (fields : List (String × Data)) : Table :=
  fields.map fun field => (field.1, .value field.2.flatAsRead)

/-- What the name of a section stands for once the section has been read. -/
def sectionNode : Data → Node
  | .record fields => .table .header (entriesOf fields)
  | .list items => .tables (items.map fun item => entriesOf (fieldsOf item))
  | d => .value d

theorem toFields_append (xs ys : Table) : toFields (xs ++ ys) = toFields xs ++ toFields ys := by
  induction xs with
  | nil => rfl
  | cons entry xs ih =>
    rw [List.cons_append, toFields, toFields, ih]
    rfl

theorem toFields_entriesOf (fields : List (String × Data)) :
    toFields (entriesOf fields) = Data.fieldsAsRead fields := by
  induction fields with
  | nil => rfl
  | cons field fields ih =>
    rw [entriesOf, List.map_cons, toFields, nodeData]
    exact congrArg _ ih

theorem tablesData_map (items : List Data) :
    tablesData (items.map fun item => entriesOf (fieldsOf item)) =
      items.map fun item => .record (Data.fieldsAsRead (fieldsOf item)) := by
  induction items with
  | nil => rfl
  | cons item items ih =>
    rw [List.map_cons, tablesData, toFields_entriesOf, ih]
    rfl

theorem nodeData_sectionNode {d : Data} (h : IsTable d) :
    nodeData (sectionNode d) = d.tableAsRead := by
  cases h with
  | record fields =>
    rw [sectionNode, nodeData, toFields_entriesOf]
    rfl
  | list first others =>
    rw [sectionNode, nodeData, tablesData_map]
    rfl

theorem toFields_sections {sections : List (String × Data)}
    (h : ∀ field ∈ sections, IsTable field.2) :
    toFields (sections.map fun field => (field.1, sectionNode field.2)) =
      sections.map fun field => (field.1, field.2.tableAsRead) := by
  induction sections with
  | nil => rfl
  | cons field sections ih =>
    rw [List.map_cons, toFields, nodeData_sectionNode (h field List.mem_cons_self),
      ih fun field' hmem => h field' (List.mem_cons_of_mem _ hmem)]
    rfl

variable {table : Table} {name : String}

theorem node?_eq_none (h : name ∉ table.map (·.1)) : table.node? name = none := by
  rw [node?, Option.map_eq_none_iff, List.find?_eq_none]
  intro entry hentry hname
  exact h (List.mem_map.2 ⟨entry, hentry, beq_iff_eq.1 hname⟩)

theorem node?_append_self (h : name ∉ table.map (·.1)) (node : Node) :
    (table.append name node).node? name = some node := by
  have hnone := node?_eq_none h
  rw [node?, Option.map_eq_none_iff] at hnone
  rw [node?, append, List.find?_append, hnone]
  simp

theorem replace_append_self (h : name ∉ table.map (·.1)) (node node' : Node) :
    (table.append name node).replace name node' = table.append name node' := by
  have hkeep : ∀ entry ∈ table, (if entry.1 == name then (name, node') else entry) = id entry := by
    intro entry hentry
    rw [if_neg, id]
    exact fun hname => h (List.mem_map.2 ⟨entry, hentry, beq_iff_eq.1 hname⟩)
  rw [replace, append, List.map_append, List.map_congr_left hkeep, List.map_id]
  simp [append]

/-! ## Statements -/

theorem carryOut?_cons {doc doc' : Document} {statement : Statement}
    (h : doc.step? statement = some doc') (statements : List Statement) :
    doc.carryOut? (statement :: statements) = doc'.carryOut? statements := by
  rw [Document.carryOut?, List.foldlM_cons, h]
  rfl

/-! ## Fields -/

/-- What it takes for fields to fill the table that is open at a path: changing the table there,
whose entries are `entries`, turns the document `whole entries` into another one of this form. -/
def OpensAt (path : List String) (whole : Table → Table) : Prop :=
  ∀ (f : Origin → Table → Option Table) (entries : Table),
    modify? false path f .header (whole entries) = (f .header entries).map whole

theorem opensAt_nil : OpensAt [] id := by
  intro f entries
  rw [modify?, Option.map_id, id, id]

theorem opensAt_table (h : name ∉ table.map (·.1)) :
    OpensAt [name] fun entries => table.append name (.table .header entries) := by
  intro f entries
  rw [modify?, node?_append_self h]
  simp only [Bool.false_and, Bool.false_eq_true, if_false, modify?]
  cases f .header entries with
  | none => rfl
  | some entries' => exact congrArg some (replace_append_self h _ _)

theorem opensAt_tables (h : name ∉ table.map (·.1)) (items : List Table) :
    OpensAt [name] fun entries => table.append name (.tables (items ++ [entries])) := by
  intro f entries
  rw [modify?, node?_append_self h]
  simp only [List.getLast?_concat, List.dropLast_concat, modify?]
  cases f .header entries with
  | none => rfl
  | some entries' => exact congrArg some (replace_append_self h _ _)

theorem step?_field {path : List String} {whole : Table → Table} (h : OpensAt path whole)
    {entries : Table} {field : String × Data} (hnew : field.1 ∉ entries.map (·.1)) :
    Document.step? ⟨whole entries, path⟩ (fieldStatement field) =
      some ⟨whole (entries ++ [(field.1, .value field.2.flatAsRead)]), path⟩ := by
  have hassign : assign? path [field.1] field.2.flatAsRead (whole entries) =
      some (whole (entries ++ [(field.1, .value field.2.flatAsRead)])) := by
    rw [assign?]
    simp only [List.getLast?_singleton, List.dropLast_singleton]
    rw [h]
    simp only [modify?, node?_eq_none hnew]
    rfl
  rw [fieldStatement, Document.step?, hassign]
  rfl

/-- **Fields fill the table that is open**, wherever it is in the document. -/
theorem carryOut?_fields {path : List String} {whole : Table → Table} (h : OpensAt path whole)
    {fields : List (String × Data)} (entries : Table)
    (hnodup : (entries.map (·.1) ++ fields.map (·.1)).Nodup) :
    Document.carryOut? ⟨whole entries, path⟩ (fields.map fieldStatement) =
      some ⟨whole (entries ++ entriesOf fields), path⟩ := by
  induction fields generalizing entries with
  | nil => simp [Document.carryOut?, entriesOf]
  | cons field fields ih =>
    have hnew : field.1 ∉ entries.map (·.1) := by
      intro hmem
      exact (List.nodup_append.1 hnodup).2.2 _ hmem field.1 List.mem_cons_self rfl
    have hrest : ((entries ++ [(field.1, Node.value field.2.flatAsRead)]).map (·.1) ++
        fields.map (·.1)).Nodup := by
      rw [List.map_append, List.append_assoc]
      exact hnodup
    have hstep := step?_field h hnew
    have hlater := ih _ hrest
    rw [List.append_assoc] at hlater
    rw [List.map_cons, carryOut?_cons hstep]
    exact hlater

/-! ## Sections -/

theorem openTable?_new (h : name ∉ table.map (·.1)) :
    table.openTable? [name] = some (table.append name (.table .header [])) := by
  simp only [openTable?, List.getLast?_singleton, List.dropLast_singleton, modify?, node?_eq_none h]

theorem nextTable?_new (h : name ∉ table.map (·.1)) :
    table.nextTable? [name] = some (table.append name (.tables [[]])) := by
  simp only [nextTable?, List.getLast?_singleton, List.dropLast_singleton, modify?, node?_eq_none h]

theorem nextTable?_append_self (h : name ∉ table.map (·.1)) (items : List Table) :
    (table.append name (.tables items)).nextTable? [name] =
      some (table.append name (.tables (items ++ [[]]))) := by
  simp only [nextTable?, List.getLast?_singleton, List.dropLast_singleton, modify?,
    node?_append_self h, replace_append_self h]

/-- Fields fill the table that has just been opened. -/
theorem carryOut?_openedTable {path : List String} {whole : Table → Table} (h : OpensAt path whole)
    {fields : List (String × Data)} (hfields : AreFlat fields) :
    Document.carryOut? ⟨whole [], path⟩ (fields.map fieldStatement) =
      some ⟨whole (entriesOf fields), path⟩ :=
  carryOut?_fields h [] hfields.nodup

/-- More tables of a list come behind those that are there. -/
theorem carryOut?_nextTables (h : name ∉ table.map (·.1)) {records : List (List (String × Data))}
    (hrecords : ∀ fields ∈ records, AreFlat fields) (items : List Table) :
    Document.carryOut? ⟨table.append name (.tables items), [name]⟩
        (sectionStatements (name, .list (records.map .record))) =
      some ⟨table.append name (.tables (items ++ records.map entriesOf)), [name]⟩ := by
  induction records generalizing items with
  | nil =>
    rw [List.map_nil, List.map_nil, List.append_nil]
    rfl
  | cons fields records ih =>
    have hopened := carryOut?_openedTable (opensAt_tables h items)
      (hrecords fields List.mem_cons_self)
    have hlater := ih (fun fields' hmem => hrecords fields' (List.mem_cons_of_mem _ hmem))
      (items ++ [entriesOf fields])
    have hstep : Document.step? ⟨table.append name (.tables items), [name]⟩ (.nextTable [name]) =
        some ⟨table.append name (.tables (items ++ [[]])), [name]⟩ := by
      rw [Document.step?, nextTable?_append_self h]
      rfl
    have hstatements : sectionStatements (name, .list ((fields :: records).map .record)) =
        .nextTable [name] :: (fields.map fieldStatement ++
          sectionStatements (name, .list (records.map .record))) := rfl
    rw [hstatements, carryOut?_cons hstep, Document.carryOut?_append, hopened, Option.bind_some,
      hlater, List.map_cons, List.append_assoc, List.singleton_append]

/-- **A section becomes an entry** behind those that are there. -/
theorem carryOut?_section (path : List String) (hname : name ∉ table.map (·.1)) {d : Data}
    (hd : IsTable d) :
    Document.carryOut? ⟨table, path⟩ (sectionStatements (name, d)) =
      some ⟨table.append name (sectionNode d), [name]⟩ := by
  cases hd with
  | record fields hfields =>
    have hstep : Document.step? ⟨table, path⟩ (.table [name]) =
        some ⟨table.append name (.table .header []), [name]⟩ := by
      rw [Document.step?, openTable?_new hname]
      rfl
    have hstatements : sectionStatements (name, .record fields) =
        .table [name] :: fields.map fieldStatement := rfl
    rw [hstatements, carryOut?_cons hstep]
    exact carryOut?_openedTable (opensAt_table hname) hfields
  | list first others hrecords =>
    have hstep : Document.step? ⟨table, path⟩ (.nextTable [name]) =
        some ⟨table.append name (.tables [[]]), [name]⟩ := by
      rw [Document.step?, nextTable?_new hname]
      rfl
    have hopened := carryOut?_openedTable (opensAt_tables hname [])
      (hrecords first List.mem_cons_self)
    have hlater := carryOut?_nextTables hname
      (fun fields hmem => hrecords fields (List.mem_cons_of_mem _ hmem)) [entriesOf first]
    have hstatements : sectionStatements (name, .list ((first :: others).map .record)) =
        .nextTable [name] :: (first.map fieldStatement ++
          sectionStatements (name, .list (others.map .record))) := rfl
    have hnode : sectionNode (.list ((first :: others).map .record)) =
        .tables ([entriesOf first] ++ others.map entriesOf) := by
      rw [sectionNode, List.map_map]
      rfl
    rw [hstatements, carryOut?_cons hstep, hnode, Document.carryOut?_append]
    exact (congrArg (Option.bind · _) hopened).trans hlater

/-- The sections of a document become entries one behind the other. -/
theorem carryOut?_sections {sections : List (String × Data)}
    (hsections : ∀ field ∈ sections, IsTable field.2) (table : Table) (path : List String)
    (hnodup : (table.map (·.1) ++ sections.map (·.1)).Nodup) :
    ∃ path', Document.carryOut? ⟨table, path⟩ (sections.flatMap sectionStatements) =
      some ⟨table ++ sections.map fun field => (field.1, sectionNode field.2), path'⟩ := by
  induction sections generalizing table path with
  | nil => exact ⟨path, by rw [List.map_nil, List.append_nil]; rfl⟩
  | cons field sections ih =>
    have hnew : field.1 ∉ table.map (·.1) := fun hmem =>
      (List.nodup_append.1 hnodup).2.2 _ hmem field.1 List.mem_cons_self rfl
    have hrest : ((table.append field.1 (sectionNode field.2)).map (·.1) ++
        sections.map (·.1)).Nodup := by
      rw [Table.append, List.map_append, List.append_assoc]
      exact hnodup
    have hsection := carryOut?_section path hnew (hsections field List.mem_cons_self)
    obtain ⟨path', hlater⟩ :=
      ih (fun field' hmem => hsections field' (List.mem_cons_of_mem _ hmem)) _ [field.1] hrest
    rw [Table.append, List.append_assoc] at hlater
    refine ⟨path', ?_⟩
    rw [List.flatMap_cons, Document.carryOut?_append, hsection]
    exact hlater

/-! ## Documents -/

theorem dropByteOrderMark_cons {c : Char} (h : c ≠ '\uFEFF') (u : Text) :
    dropByteOrderMark (c :: u) = c :: u := by
  unfold dropByteOrderMark
  split
  · rename_i heq
    exact absurd (List.cons.inj heq).1 h
  · rfl

theorem writeSection_eq_cons {field : String × Data} (h : IsTable field.2) :
    ∃ u, writeSection field = '\n' :: u := by
  obtain ⟨name, d⟩ := field
  cases h with
  | record => exact ⟨_, rfl⟩
  | list => exact ⟨_, rfl⟩

/-- A document is not written with a byte order mark in front. -/
theorem dropByteOrderMark_write {plain sections : List (String × Data)} (hplain : AreFlat plain)
    (hsections : ∀ field ∈ sections, IsTable field.2) :
    dropByteOrderMark (write (plain ++ sections)) = write (plain ++ sections) := by
  rw [write_append hplain.flat hsections]
  cases plain with
  | nil =>
    cases sections with
    | nil => rfl
    | cons field sections =>
      obtain ⟨u, hwritten⟩ := writeSection_eq_cons (hsections field List.mem_cons_self)
      rw [List.flatMap_cons, hwritten]
      exact dropByteOrderMark_cons (by decide) _
  | cons field plain =>
    obtain ⟨c, u, hname, hc⟩ := (hplain.bare field List.mem_cons_self).exists_cons
    rw [writeFields, List.flatMap_cons, writeField, hname]
    exact dropByteOrderMark_cons (ne_of_isBareCharacter hc rfl) _

/-- **A document is read as it was before it was written**, characters as texts. -/
theorem read?_write {plain sections : List (String × Data)} (hplain : AreFlat plain)
    (hsections : ∀ field ∈ sections, IsBareKey field.1 ∧ IsTable field.2)
    (hnodup : ((plain ++ sections).map (·.1)).Nodup) :
    read? (write (plain ++ sections)) =
      some (Data.fieldsAsRead plain ++
        sections.map fun field => (field.1, field.2.tableAsRead)) := by
  have htables : ∀ field ∈ sections, IsTable field.2 := fun field hfield =>
    (hsections field hfield).2
  have hfields := carryOut?_fields opensAt_nil [] (hplain.nodup : (([] : List String) ++ _).Nodup)
  have hnames : ((entriesOf plain).map (·.1) ++ sections.map (·.1)).Nodup := by
    rw [entriesOf, List.map_map]
    rw [List.map_append] at hnodup
    exact hnodup
  obtain ⟨path, hcarried⟩ := carryOut?_sections htables (entriesOf plain) [] hnames
  have hdocument : Document.carryOut? {}
      (plain.map fieldStatement ++ sections.flatMap sectionStatements) =
      some ⟨entriesOf plain ++ sections.map fun field => (field.1, sectionNode field.2), path⟩ := by
    rw [Document.carryOut?_append]
    exact (congrArg (Option.bind · _) hfields).trans hcarried
  rw [read?, dropByteOrderMark_write hplain htables, statements?_write hplain hsections]
  simp only [Option.bind_eq_bind, Option.bind_some]
  rw [hdocument, Option.bind_some, toFields_append, toFields_entriesOf, toFields_sections htables]
  rfl

end Toml

end PageShell
