import PageShell.Proofs.FileWrite
import PageShell.Proofs.Toml.Documents
import PageShell.Workspace

/-!
# Configurations that are saved

A configuration is written as a document and read back from it. Its plain fields come first, and
the list of rules is one of them as long as it is empty.

Results:

* `Config.read?_toToml`: the document of a configuration is read as its fields, with the delimiters
  of the anchor as texts.
* `Config.ofToml?_toToml`: the document of a configuration holds that configuration.
* `Workspace.load_of_save`, `Workspace.save_again`: a configuration that has been saved is loaded,
  and saving it once more changes nothing.
* `Workspace.save_save`: of two configurations that are saved the second counts.
* `Workspace.load_of_readText`: a workspace whose configuration file is the document of
  a configuration has that configuration.
* `Workspace.config_round_trip`: a configuration comes back from its file, and from an export.
-/

namespace PageShell

open Toml (AreFlat IsTable IsBareKey areFlat_of_names)

/-! ## Documents -/

namespace AnchorSettings

/-- Anchor settings as they are read back, with the delimiters as texts. -/
def dataAsRead (a : AnchorSettings) : Data :=
  .record [("pattern", .text a.pattern), ("open", .text (String.singleton a.opening)),
    ("close", .text (String.singleton a.closing))]

@[simp] theorem ofData?_dataAsRead (dialect : Dialect) (a : AnchorSettings) :
    ofData? dialect a.dataAsRead = some a := by
  simp [ofData?, dataAsRead, Dialect.fields?, Data.field?, Data.text?, Data.character?]

end AnchorSettings

namespace Config

/-- The fields of a configuration as they are read back. -/
def fieldsAsRead (c : Config) : List (String × Data) :=
  [("version", .text c.version), ("default_category", c.defaultCategory.toData),
    ("files", .list (c.files.map .text)), ("rules", .list (c.rules.map Rule.toData)),
    ("anchor", c.anchor.dataAsRead), ("wrapper", c.wrapper.toData),
    ("global_settings", settingsData c.verbose)]

theorem ofData?_fieldsAsRead (dialect : Dialect) (c : Config) :
    ofData? dialect (.record c.fieldsAsRead) = some c := by
  have hfiles := mapM_map_some Data.text Data.text? (fun _ => rfl) c.files
  have hrules := mapM_map_some Rule.toData (Rule.ofData? dialect) (Rule.ofData?_toData dialect)
    c.rules
  simp [ofData?, fieldsAsRead, fieldNames, Dialect.fields?, Data.field?, Data.text?,
    Data.list?, Data.boolean?, settingsData, settingsOfData?, hfiles, hrules]

/-! ### Plain fields -/

/-- The list of rules, which is a plain field as long as it is empty and then a list of tables. -/
def rulesField (c : Config) : String × Data := ("rules", .list (c.rules.map Rule.toData))

/-- The fields that are written each on a line. -/
def plainFields (c : Config) : List (String × Data) :=
  [("version", .text c.version), ("default_category", c.defaultCategory.toData),
    ("files", .list (c.files.map .text))] ++ if c.rules.isEmpty then [c.rulesField] else []

/-- The fields that are written as tables. -/
def tableFields (c : Config) : List (String × Data) :=
  (if c.rules.isEmpty then [] else [c.rulesField]) ++
    [("anchor", c.anchor.toData), ("wrapper", c.wrapper.toData),
      ("global_settings", settingsData c.verbose)]

theorem toFields_eq (c : Config) : c.toFields = c.plainFields ++ c.tableFields := by
  unfold plainFields tableFields
  cases c.rules.isEmpty <;> rfl

theorem areFlat_plainFields (c : Config) : AreFlat c.plainFields := by
  unfold plainFields
  by_cases hrules : c.rules = []
  · refine areFlat_of_names ["version", "default_category", "files", "rules"] ?_
      (by decide) (by decide) ?_
    · simp [hrules, rulesField]
    · simp [hrules, rulesField, Category.toData, Data.isFlat, Data.isAtom]
  · refine areFlat_of_names ["version", "default_category", "files"] ?_ (by decide) (by decide) ?_
    · simp [hrules]
    · simp [hrules, Category.toData, Data.isFlat, Data.isAtom]

/-! ### Tables -/

/-- The fields of a rule as data. -/
def ruleFields (r : Rule) : List (String × Data) :=
  [("category", r.category.toData), ("segment", .text r.segment)]

theorem areFlat_ruleFields (r : Rule) : AreFlat (ruleFields r) := by
  refine areFlat_of_names ["category", "segment"] rfl (by decide) (by decide) ?_
  simp [ruleFields, Category.toData, Data.isFlat, Data.isAtom]

theorem isTable_rules {rules : List Rule} (h : rules ≠ []) :
    IsTable (.list (rules.map Rule.toData)) := by
  obtain ⟨first, others, rfl⟩ := List.exists_cons_of_ne_nil h
  have hflat : ∀ fields ∈ (first :: others).map ruleFields, AreFlat fields := by
    intro fields hfields
    obtain ⟨r, -, rfl⟩ := List.mem_map.1 hfields
    exact areFlat_ruleFields r
  have htable := IsTable.list (ruleFields first) (others.map ruleFields) hflat
  rw [← List.map_cons, List.map_map] at htable
  exact htable

theorem isTable_anchor (a : AnchorSettings) : IsTable a.toData := by
  refine .record _ (areFlat_of_names ["pattern", "open", "close"] rfl (by decide) (by decide) ?_)
  simp [Data.isFlat, Data.isAtom]

theorem isTable_wrapper (w : Wrapper) : IsTable w.toData := by
  refine .record _ (areFlat_of_names ["component", "role_attribute", "pass_through"] rfl
    (by decide) (by decide) ?_)
  simp [Data.isFlat, Data.isAtom]

theorem isTable_settings (verbose : Bool) : IsTable (settingsData verbose) := by
  refine .record _ (areFlat_of_names ["verbose"] rfl (by decide) (by decide) ?_)
  simp [Data.isFlat, Data.isAtom]

theorem isTable_of_mem_tableFields {c : Config} {field : String × Data}
    (h : field ∈ c.tableFields) : IsTable field.2 := by
  rcases List.mem_append.1 h with h | h
  · split at h
    · cases h
    · rename_i hrules
      cases List.mem_singleton.1 h
      exact isTable_rules fun hnil => hrules (by rw [hnil]; rfl)
  · simp only [List.mem_cons, List.not_mem_nil, or_false] at h
    rcases h with rfl | rfl | rfl
    · exact isTable_anchor c.anchor
    · exact isTable_wrapper c.wrapper
    · exact isTable_settings c.verbose

/-! ### Whole documents -/

theorem isBareKey_of_mem_fieldNames : ∀ name ∈ fieldNames, IsBareKey name := by decide

/-- The plain fields and the tables as they are read are the fields as they are read. -/
theorem asRead_eq (c : Config) :
    Data.fieldsAsRead c.plainFields ++
        c.tableFields.map (fun field => (field.1, field.2.tableAsRead)) = c.fieldsAsRead := by
  have hfiles : (Data.list (c.files.map .text)).flatAsRead = .list (c.files.map .text) := by
    simp [Data.flatAsRead, Data.atomAsRead]
  have hrule : ∀ r : Rule, .record (Data.fieldsAsRead (Toml.fieldsOf r.toData)) = r.toData :=
    fun _ => rfl
  have hrules : (Data.list (c.rules.map Rule.toData)).tableAsRead =
      .list (c.rules.map Rule.toData) := by
    rw [Data.tableAsRead, List.map_map]
    exact congrArg Data.list (List.map_congr_left fun r _ => hrule r)
  unfold plainFields tableFields
  cases hempty : c.rules.isEmpty with
  | true =>
    have hnil : c.rules = [] := List.isEmpty_iff.1 hempty
    simp only [if_true, fieldsAsRead, rulesField, hnil, Data.fieldsAsRead, List.map_append,
      List.map_cons, List.map_nil, hfiles]
    rfl
  | false =>
    simp only [Bool.false_eq_true, if_false, fieldsAsRead, rulesField, Data.fieldsAsRead,
      List.map_append, List.map_cons, List.map_nil, hfiles, hrules]
    rfl

/-- **The document of a configuration is read as its fields.** -/
theorem read?_toToml (c : Config) : Toml.read? c.toToml = some c.fieldsAsRead := by
  have hnames : (c.plainFields ++ c.tableFields).map (·.1) = fieldNames := by
    rw [← toFields_eq]
    rfl
  have hsections : ∀ field ∈ c.tableFields, IsBareKey field.1 ∧ IsTable field.2 := by
    intro field hfield
    have hname : field.1 ∈ fieldNames :=
      hnames ▸ List.mem_map_of_mem (List.mem_append_right _ hfield)
    exact ⟨isBareKey_of_mem_fieldNames field.1 hname, isTable_of_mem_tableFields hfield⟩
  have hnodup : ((c.plainFields ++ c.tableFields).map (·.1)).Nodup := by
    rw [hnames]
    decide
  rw [toToml, toFields_eq, Toml.read?_write c.areFlat_plainFields hsections hnodup, asRead_eq]

/-- **The document of a configuration holds that configuration.** -/
theorem ofToml?_toToml (c : Config) : ofToml? c.toToml = some c := by
  rw [ofToml?, read?_toToml]
  exact ofData?_fieldsAsRead .toml c

end Config

/-! ## Workspaces -/

namespace Workspace

variable {w : Workspace} {tree saved : FileTree} {c : Config} {path : String}

theorem save_eq_ok_iff :
    w.save tree c = .ok saved ↔ tree.writeText w.dir w.configPath c.toToml = .ok saved :=
  mapError_eq_ok_iff

/-- **The configuration of a workspace** is the one whose document its configuration file is. -/
theorem load_of_readText (h : tree.readText w.dir w.configPath = .ok c.toToml) :
    w.load tree = .ok c := by
  rw [load, if_pos (FileTree.isPresent_of_readText h), h]
  simp only [Config.ofToml?_toToml]
  rfl

theorem load_of_save (h : w.save tree c = .ok saved) : w.load saved = .ok c :=
  load_of_readText (FileTree.readText_of_writeText (save_eq_ok_iff.1 h))

/-- Of two configurations that are saved the second counts, as if the first had not been saved. -/
theorem save_save (h : w.save tree c = .ok saved) (other : Config) :
    ∃ saved', w.save saved other = .ok saved' ∧ w.save tree other = .ok saved' := by
  obtain ⟨saved', hagain, hwrite⟩ := FileTree.writeText_writeText (save_eq_ok_iff.1 h) other.toToml
  exact ⟨saved', save_eq_ok_iff.2 hagain, save_eq_ok_iff.2 hwrite⟩

theorem save_again (h : w.save tree c = .ok saved) : w.save saved c = .ok saved :=
  save_eq_ok_iff.2 (FileTree.writeText_again (save_eq_ok_iff.1 h))

/-! ## A workspace at the top of a tree -/

theorem lookup_configPath (hfree : tree.item? [configName] = none) :
    tree.lookup [] (configPath ⟨"/", []⟩) = .ok (.free [configName]) :=
  FileTree.lookup_of_name (by decide) (by decide) (by decide) hfree

theorem load_at_top (hfree : tree.item? [configName] = none) :
    load ⟨"/", []⟩ tree = .ok .default :=
  load_of_absent (FileTree.isPresent_of_free (lookup_configPath hfree))

/-- Where there is no configuration file, one can be written. The rest of the tree stays as it
is. -/
theorem exists_save_at_top (tree : FileTree) (hfree : tree.item? [configName] = none)
    (c : Config) :
    ∃ saved, save ⟨"/", []⟩ tree c = .ok saved ∧
      ∀ loc, loc ≠ [configName] → saved.item? loc = tree.item? loc :=
  ⟨_, save_eq_ok_iff.2 (FileTree.writeText_of_free (by decide) (lookup_configPath hfree) _),
    fun _ hloc => FileTree.item?_set_of_ne tree hloc _⟩

/-! ## Round trips -/

theorem exportConfig_eq_ok_iff (hload : w.load tree = .ok c) {format : Format}
    {exported : FileTree} :
    w.exportConfig tree path format = .ok exported ↔
      tree.writeText w.dir path (c.written format) = .ok exported := by
  rw [exportConfig, hload]
  exact mapError_eq_ok_iff

/-- **A configuration comes back from its file.** If it has been saved, it is loaded as it was, and
saving it once more leaves the tree as it is. If it has been exported, every workspace whose
configuration file reads as the export has the same configuration. -/
theorem config_round_trip (w : Workspace) (tree : FileTree) (c : Config) :
    (∀ saved, w.save tree c = .ok saved →
      w.load saved = .ok c ∧ w.save saved c = .ok saved) ∧
    ∀ path exported, w.load tree = .ok c → w.exportConfig tree path .toml = .ok exported →
      ∃ t, exported.readText w.dir path = .ok t ∧
        ∀ (other : Workspace) (tree' : FileTree),
          tree'.readText other.dir other.configPath = .ok t → other.load tree' = .ok c := by
  refine ⟨fun saved h => ⟨load_of_save h, save_again h⟩, fun path exported hload h => ?_⟩
  have hwritten := (exportConfig_eq_ok_iff hload).1 h
  exact ⟨c.toToml, FileTree.readText_of_writeText hwritten,
    fun other tree' hread => load_of_readText hread⟩

/-- A configuration of strings that are hard to quote is saved in an empty workspace, exported there
and put in place in another one. -/
theorem config_round_trip_quotes :
    let c : Config :=
      { Config.default with
        version := "\n'''\"\"\"\r\\", files := ["", "\"'\x7f"], rules := [],
        anchor := ⟨"return", '\'', '\n'⟩ }
    let w : Workspace := ⟨"/", []⟩
    let other : Workspace := ⟨"", []⟩
    ∃ saved exported placed t,
      (w.save {} c = .ok saved ∧ w.load saved = .ok c ∧ w.save saved c = .ok saved) ∧
        w.exportConfig saved "/copy.toml" .toml = .ok exported ∧
        exported.readText w.dir "/copy.toml" = .ok t ∧
        FileTree.writeText {} other.dir other.configPath t = .ok placed ∧
        other.load placed = .ok c := by
  intro c w other
  obtain ⟨saved, hsave, hkept⟩ := exists_save_at_top {} rfl c
  have hother : FileTree.lookup {} other.dir other.configPath = .ok (.free [configName]) :=
    FileTree.lookup_of_name (by decide) (by decide) (by decide) (by decide)
  have hcopy : saved.lookup w.dir "/copy.toml" = .ok (.free ["copy.toml"]) :=
    FileTree.lookup_of_name (by decide) (by decide) (by decide) (hkept _ (by decide))
  obtain ⟨hload, hagain⟩ := (config_round_trip w {} c).1 _ hsave
  have hexport : w.exportConfig saved "/copy.toml" .toml = .ok _ :=
    (exportConfig_eq_ok_iff hload).2 (FileTree.writeText_of_free (by decide) hcopy c.toToml)
  obtain ⟨t, hread, hplaced⟩ := (config_round_trip w _ c).2 _ _ hload hexport
  have hwrite := FileTree.writeText_of_free (by decide) hother t
  exact ⟨_, _, _, t, ⟨hsave, hload, hagain⟩, hexport, hread, hwrite,
    hplaced other _ (FileTree.readText_of_writeText hwrite)⟩

end Workspace

end PageShell
