import PageShell.Proofs.Json.Documents
import PageShell.Proofs.Saving

/-!
# Configurations that are exported to JSON

The JSON form of a configuration is a record of all its fields, with the delimiters of the anchor as
strings of one character. It is read back as those fields, so that it tells configurations apart.

Results:

* `Config.readsAs_toData`: what is written for a configuration is read as its fields.
* `Config.ofJson?_toJson`, `Config.toJson_injective`: the JSON form of a configuration holds that
  configuration and no other.
* `Workspace.json_round_trip`: a configuration that is exported to JSON comes back from the export.
-/

namespace PageShell

open Json (ReadsAs FieldReadsAs readsAs_text readsAs_boolean readsAs_character)

/-! ## Parts -/

theorem Rule.readsAs_toData (r : Rule) : ReadsAs r.toData r.toData := by
  refine .record ?_
  simp only [List.forall₂_cons, FieldReadsAs, true_and]
  exact ⟨readsAs_text _, readsAs_text _, .nil⟩

theorem AnchorSettings.readsAs_toData (a : AnchorSettings) : ReadsAs a.toData a.dataAsRead := by
  refine .record ?_
  simp only [List.forall₂_cons, FieldReadsAs, true_and]
  exact ⟨readsAs_text _, readsAs_character _, readsAs_character _, .nil⟩

theorem Wrapper.readsAs_toData (w : Wrapper) : ReadsAs w.toData w.toData := by
  refine .record ?_
  simp only [List.forall₂_cons, FieldReadsAs, true_and]
  refine ⟨readsAs_text _, readsAs_text _, .list ?_, .nil⟩
  exact .cons (readsAs_text _) (.cons (readsAs_text _) .nil)

namespace Config

theorem readsAs_settingsData (verbose : Bool) :
    ReadsAs (settingsData verbose) (settingsData verbose) := by
  refine .record ?_
  simp only [List.forall₂_cons, FieldReadsAs, true_and]
  exact ⟨readsAs_boolean verbose, .nil⟩

/-! ## Whole configurations -/

/-- A list of values of one kind is read as it was written if all values of that kind are. -/
theorem readsAs_map {α : Type} {f : α → Data} (h : ∀ a, ReadsAs (f a) (f a)) (xs : List α) :
    ReadsAs (.list (xs.map f)) (.list (xs.map f)) :=
  .list (List.forall₂_map_left_iff.2 (List.forall₂_map_right_iff.2
    (List.forall₂_same.2 fun a _ => h a)))

/-- **What is written for a configuration is read as its fields.** -/
theorem readsAs_toData (c : Config) : ReadsAs c.toData (.record c.fieldsAsRead) := by
  refine .record ?_
  simp only [toFields, fieldsAsRead, List.forall₂_cons, FieldReadsAs, true_and]
  exact ⟨readsAs_text _, readsAs_text _, readsAs_map readsAs_text _,
    readsAs_map Rule.readsAs_toData _, c.anchor.readsAs_toData, c.wrapper.readsAs_toData,
    readsAs_settingsData _, .nil⟩

/-- **The JSON form of a configuration holds that configuration.** -/
theorem ofJson?_toJson (c : Config) : ofJson? c.toJson = some c := by
  rw [ofJson?, toJson, Json.read?_write c.readsAs_toData]
  exact ofData?_fieldsAsRead .json c

theorem toJson_injective : Function.Injective toJson := by
  intro c c' h
  have hread : some c = some c' := by rw [← ofJson?_toJson c, h, ofJson?_toJson]
  exact Option.some_inj.1 hread

end Config

/-! ## Exports -/

namespace Workspace

variable {w : Workspace} {tree exported : FileTree} {c : Config} {path : String}

/-- An export is read as it was written. -/
theorem readText_of_exportConfig (hload : w.load tree = .ok c) {format : Format}
    (h : w.exportConfig tree path format = .ok exported) :
    exported.readText w.dir path = .ok (c.written format) :=
  FileTree.readText_of_writeText ((exportConfig_eq_ok_iff hload).1 h)

/-- **A configuration that is exported to JSON comes back from the export.** The export succeeds
if the file can be written. Then the file reads as a document that holds the configuration of the
workspace, and no other configuration of any workspace is exported to the same document. -/
theorem json_round_trip (hload : w.load tree = .ok c) (path : String) :
    (∀ exported, w.exportConfig tree path .json = .ok exported ↔
      tree.writeText w.dir path c.toJson = .ok exported) ∧
    ∀ exported, w.exportConfig tree path .json = .ok exported →
      ∃ t, exported.readText w.dir path = .ok t ∧ Config.ofJson? t = some c ∧
        ∀ (other : Workspace) (tree' exported' : FileTree) (c' : Config) (path' : String),
          other.load tree' = .ok c' → other.exportConfig tree' path' .json = .ok exported' →
            exported'.readText other.dir path' = .ok t → c' = c := by
  refine ⟨fun exported => exportConfig_eq_ok_iff hload, fun exported h => ?_⟩
  refine ⟨c.toJson, readText_of_exportConfig hload h, c.ofJson?_toJson, ?_⟩
  intro other tree' exported' c' path' hload' h' hread
  have hwritten : exported'.readText other.dir path' = .ok c'.toJson :=
    readText_of_exportConfig hload' h'
  rw [hread] at hwritten
  exact Config.toJson_injective (Except.ok.inj hwritten).symm

/-- A configuration with every kind of character that JSON escapes, and with some that it does not,
is exported from the workspace where it has been saved. -/
theorem json_round_trip_escapes :
    let c : Config :=
      { Config.default with
        version := "\"\\/\x08\t\n\x0c\r\x00\x1f\x7f", files := ["", "\u2028é😀", "\\u0041"],
        rules := [], anchor := ⟨"return\\s*\\(", '"', '\x01'⟩ }
    let w : Workspace := ⟨"/", []⟩
    ∃ saved exported t,
      w.load saved = .ok c ∧ w.exportConfig saved "/copy.json" .json = .ok exported ∧
        exported.readText w.dir "/copy.json" = .ok t ∧ Config.ofJson? t = some c := by
  intro c w
  obtain ⟨saved, hsave, hkept⟩ := exists_save_at_top {} rfl c
  have hcopy : saved.lookup w.dir "/copy.json" = .ok (.free ["copy.json"]) :=
    FileTree.lookup_of_name (by decide) (by decide) (by decide) (hkept _ (by decide))
  have hload : w.load saved = .ok c := load_of_save hsave
  obtain ⟨hwrites, hreads⟩ := json_round_trip hload "/copy.json"
  have hexport := (hwrites _).2 (FileTree.writeText_of_free (by decide) hcopy c.toJson)
  obtain ⟨t, hread, hholds, -⟩ := hreads _ hexport
  exact ⟨_, _, t, hload, hexport, hread, hholds⟩

end Workspace

end PageShell
