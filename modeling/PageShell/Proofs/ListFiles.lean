import PageShell.Proofs.Directories
import PageShell.Proofs.ListEdits
import PageShell.Proofs.TextParts

/-!
# List files

A list file is cut into lines, and every line is trimmed, skipped if it is blank or a comment, and
kept once. Reading it is adding what stands on its lines to an empty list, so that the laws of lists
in memory are laws of list files.

Results:

* `entry?_eq_some_iff`: what stands on a line.
* `entries_append`, `entries_withCarriageReturns`: the entries of two files one behind the other,
  and of a file whose lines end otherwise.
* `parse_eq_add`: reading a list file is adding its entries.
* `pairwise_appearsBefore`: entries are listed in the order in which they appear.
* `Workspace.importFiles_importFiles`: importing two files in turn is importing them together.
* `list_file_laws`: what a list file holds, and how list files combine.
-/

namespace PageShell

/-! ## Texts -/

namespace Text

/-- The text with a carriage return in front of every line feed. -/
def withCarriageReturns (t : Text) : Text :=
  t.flatMap fun c => if c = '\n' then ['\r', '\n'] else [c]

theorem dropStart_append (start t : Text) : dropStart start (start ++ t) = t := by
  rw [dropStart, if_pos (List.isPrefixOf_iff_prefix.2 (List.prefix_append start t)),
    List.drop_left]

theorem dropStart_of_not_prefix {start t : Text} (h : ¬start <+: t) : dropStart start t = t := by
  rw [dropStart, if_neg fun hp => h (List.isPrefixOf_iff_prefix.1 hp)]

theorem trim_dropCarriageReturn (line : Text) : trim (dropCarriageReturn line) = trim line := by
  unfold dropCarriageReturn
  split
  · rename_i h
    obtain ⟨front, rfl⟩ := List.getLast?_eq_some_iff.1 h
    rw [List.dropLast_concat, trim_append (List.forall_mem_singleton.2 (by decide))]
  · rfl

end Text

namespace FileList

variable {content : Text} {line : Text} {e e' : String}

/-! ## Entries -/

/-- An entry stands on a line if the trimmed line is neither empty nor a comment, and is the entry,
with `./` in front if it has that. -/
def StandsOn (e : String) (line : Text) : Prop :=
  Text.trim line ≠ [] ∧ (Text.trim line).head? ≠ some '#' ∧
    (Text.trim line = ['.', '/'] ++ e.toList ∨
      ¬['.', '/'] <+: Text.trim line ∧ Text.trim line = e.toList)

theorem entry?_congr {line' : Text} (h : Text.trim line = Text.trim line') :
    entry? line = entry? line' := by
  unfold entry?
  rw [h]

theorem entry?_of_trim (hne : Text.trim line ≠ []) (hcomment : (Text.trim line).head? ≠ some '#') :
    entry? line = some (String.ofList (Text.dropStart ['.', '/'] (Text.trim line))) := by
  unfold entry?
  split
  · rename_i h
    exact absurd h hne
  · rename_i h
    rw [h] at hcomment
    exact absurd rfl hcomment
  · rfl

/-- **What stands on a line** is what is read from it. -/
theorem entry?_eq_some_iff : entry? line = some e ↔ StandsOn e line := by
  by_cases hnone : Text.trim line = [] ∨ (Text.trim line).head? = some '#'
  · rw [(entry?_eq_none_iff line).2 hnone]
    constructor
    · intro h
      cases h
    · rintro ⟨hne, hcomment, -⟩
      exact absurd hnone (not_or.2 ⟨hne, hcomment⟩)
  · obtain ⟨hne, hcomment⟩ := not_or.1 hnone
    rw [entry?_of_trim hne hcomment, Option.some.injEq, ← String.toList_inj, String.toList_ofList]
    by_cases hdot : ['.', '/'] <+: Text.trim line
    · obtain ⟨rest, hrest⟩ := hdot
      simp only [StandsOn, ← hrest, Text.dropStart_append]
      simp
    · rw [Text.dropStart_of_not_prefix hdot]
      constructor
      · intro h
        exact ⟨hne, hcomment, .inr ⟨hdot, h⟩⟩
      · rintro ⟨-, -, h | h⟩
        · exact absurd ⟨_, h.symm⟩ hdot
        · exact h.2

/-! ## Lines -/

/-- What stands on the lines of a list file, in order and as often as it does. -/
def entries (content : Text) : List String := (Text.lines content).filterMap entry?

theorem mem_entries_iff : e ∈ entries content ↔ ∃ line ∈ Text.lines content, StandsOn e line := by
  simp only [entries, List.mem_filterMap, entry?_eq_some_iff]

/-- How lines end makes no difference, nor does an empty line behind the last one. -/
theorem entries_eq (content : Text) :
    entries content = (Text.fields (· == '\n') content).filterMap entry? := by
  have hend : ∀ piece : Text, entry? (Text.dropCarriageReturn piece) = entry? piece :=
    fun piece => entry?_congr (Text.trim_dropCarriageReturn piece)
  have hempty : ∀ piece : Text, (if (decide (piece ≠ [])) = true then entry? piece else none) =
      entry? piece := by
    intro piece
    by_cases hpiece : piece = []
    · subst hpiece
      rfl
    · rw [if_pos (decide_eq_true hpiece)]
  rw [entries, Text.lines, List.filterMap_append, List.filterMap_map, List.filterMap_filter]
  simp only [Function.comp_def, hend, hempty]
  obtain ⟨front, last, hpieces⟩ := (List.eq_nil_or_concat _).resolve_left
    (Text.fields_ne_nil (· == '\n') content)
  rw [← List.filterMap_append, hpieces]
  simp

theorem entries_of_not_mem {entry : Option String} (h : '\n' ∉ content)
    (hentry : entry? content = entry) : entries content = entry.toList := by
  rw [entries_eq, Text.fields_of_not_mem h]
  cases entry <;> simp [hentry]

/-- **The entries of two list files, one behind the other.** -/
theorem entries_append (content more : Text) :
    entries (content ++ '\n' :: more) = entries content ++ entries more := by
  rw [entries_eq, entries_eq, entries_eq, Text.fields_append_cons (by simp), List.filterMap_append]

/-- **Carriage returns in front of line feeds make no difference.** -/
theorem entries_withCarriageReturns (content : Text) :
    entries (Text.withCarriageReturns content) = entries content := by
  -- what has been passed of a line is carried along
  suffices h : ∀ front, '\n' ∉ front →
      entries (front ++ Text.withCarriageReturns content) = entries (front ++ content) from
    h [] List.not_mem_nil
  induction content with
  | nil => exact fun front _ => rfl
  | cons c content ih =>
    intro front hfront
    by_cases hc : c = '\n'
    · subst hc
      have hreturn : '\n' ∉ front ++ ['\r'] := by simpa using hfront
      have hline : entry? (front ++ ['\r']) = entry? front :=
        entry?_congr (Text.trim_append (List.forall_mem_singleton.2 (by decide)) front)
      have hsplit : front ++ Text.withCarriageReturns ('\n' :: content) =
          (front ++ ['\r']) ++ '\n' :: Text.withCarriageReturns content := by
        simp [Text.withCarriageReturns]
      rw [hsplit, entries_append, entries_append, entries_of_not_mem hreturn hline,
        entries_of_not_mem hfront rfl]
      exact congrArg _ (ih [] List.not_mem_nil)
    · have hsplit : front ++ Text.withCarriageReturns (c :: content) =
          (front ++ [c]) ++ Text.withCarriageReturns content := by
        simp [Text.withCarriageReturns, hc]
      rw [hsplit, ih (front ++ [c]) (by simpa using ⟨hfront, Ne.symm hc⟩), List.append_assoc,
        List.singleton_append]

/-! ## Reading -/

/-- **Reading a list file is adding its entries** to an empty list. -/
theorem parse_eq_add (content : Text) : parse content = add [] (entries content) :=
  (add_nil_left (entries content)).symm

theorem mem_parse_iff : e ∈ parse content ↔ ∃ line ∈ Text.lines content, StandsOn e line := by
  rw [parse_eq_add, mem_add_iff, mem_entries_iff]
  simp

/-- **Reading two list files, one behind the other,** is adding the second to the first. -/
theorem parse_append (content more : Text) :
    parse (content ++ '\n' :: more) = add (parse content) (parse more) := by
  rw [parse_eq_add, parse_eq_add, parse_eq_add, entries_append, add_append, add_assoc, add_nil]

/-! ## The order of entries -/

/-- Of two files in a list, one is in it before the other is. -/
def Precedes (xs : List String) (file other : String) : Prop :=
  ∃ before after, xs = before ++ file :: after ∧ other ∉ before ++ [file]

theorem Precedes.concat {xs : List String} (h : Precedes xs e e') (file : String) :
    Precedes (xs ++ [file]) e e' := by
  obtain ⟨before, after, rfl, hnot⟩ := h
  exact ⟨before, after ++ [file], by simp, hnot⟩

/-- Files are added in the order in which they come. -/
theorem pairwise_precedes (xs : List String) : (add [] xs).Pairwise (Precedes xs) := by
  induction xs using List.reverseRecOn with
  | nil => exact .nil
  | append_singleton xs file ih =>
    have hold : (add [] xs).Pairwise (Precedes (xs ++ [file])) := ih.imp fun h => h.concat file
    rw [add_concat, insert]
    split
    · exact hold
    · rename_i hnew
      rw [mem_add_iff, not_or] at hnew
      refine List.pairwise_append.2 ⟨hold, List.pairwise_singleton _ _, ?_⟩
      intro e he file' hfile'
      obtain rfl := List.mem_singleton.1 hfile'
      have hmem : e ∈ xs := (mem_add_iff.1 he).resolve_left List.not_mem_nil
      obtain ⟨before, after, rfl⟩ := List.append_of_mem hmem
      exact ⟨before, after ++ [file'], by simp, fun h => hnew.2 (by simp at h ⊢; tauto)⟩

/-- An entry stands on a line before another one stands on any. -/
def AppearsBefore (content : Text) (e e' : String) : Prop :=
  ∃ before line after, Text.lines content = before ++ line :: after ∧ StandsOn e line ∧
    ∀ line' ∈ before ++ [line], ¬StandsOn e' line'

theorem Precedes.appearsBefore (h : Precedes (entries content) e e') :
    AppearsBefore content e e' := by
  obtain ⟨us, vs, hsplit, hnot⟩ := h
  obtain ⟨front, back, hlines, hus, hback⟩ := List.filterMap_eq_append_iff.1 hsplit
  obtain ⟨skipped, line, after, rfl, hskipped, hline, -⟩ := List.filterMap_eq_cons_iff.1 hback
  refine ⟨front ++ skipped, line, after, by rw [hlines, List.append_assoc],
    entry?_eq_some_iff.1 hline, ?_⟩
  intro line' hmem hother
  rw [← entry?_eq_some_iff] at hother
  apply hnot
  rcases List.mem_append.1 hmem with hmem | hmem
  · rcases List.mem_append.1 hmem with hmem | hmem
    · rw [← hus]
      exact List.mem_append_left _ (List.mem_filterMap.2 ⟨line', hmem, hother⟩)
    · rw [hskipped line' hmem] at hother
      cases hother
  · rw [List.mem_singleton.1 hmem, hline] at hother
    cases hother
    simp

/-- **Entries are listed in the order in which they appear.** -/
theorem pairwise_appearsBefore (content : Text) :
    (parse content).Pairwise (AppearsBefore content) := by
  rw [parse_eq_add]
  exact (pairwise_precedes (entries content)).imp Precedes.appearsBefore

/-! ## Lists that are written to a file -/

/-- An entry that can be written on a line as it is. -/
structure IsPlain (e : String) : Prop where
  ne_empty : e ≠ ""
  trim_eq : Text.trim e.toList = e.toList
  not_mem : '\n' ∉ e.toList
  not_comment : ¬['#'] <+: e.toList
  not_dotted : ¬['.', '/'] <+: e.toList

theorem IsPlain.standsOn (h : IsPlain e) : StandsOn e e.toList := by
  rw [StandsOn, h.trim_eq]
  refine ⟨by simpa using h.ne_empty, ?_, .inr ⟨h.not_dotted, rfl⟩⟩
  intro hhead
  obtain ⟨rest, hrest⟩ := List.head?_eq_some_iff.1 hhead
  exact h.not_comment ⟨rest, hrest.symm⟩

theorem IsPlain.entries_eq (h : IsPlain e) : entries e.toList = [e] := by
  rw [entries_of_not_mem h.not_mem (entry?_eq_some_iff.2 h.standsOn)]
  rfl

theorem entries_joinFields {es : List String} (h : ∀ e ∈ es, IsPlain e) :
    entries (Text.joinFields ['\n'] (es.map String.toList)) = es := by
  induction es with
  | nil => rfl
  | cons e es ih =>
    rw [List.forall_mem_cons] at h
    cases es with
    | nil => exact h.1.entries_eq
    | cons e' es =>
      have hjoin : Text.joinFields ['\n'] ((e :: e' :: es).map String.toList) =
          e.toList ++ '\n' :: Text.joinFields ['\n'] ((e' :: es).map String.toList) := by
        simp [Text.joinFields]
      rw [hjoin, entries_append, h.1.entries_eq, ih h.2, List.singleton_append]

/-- **A list that is written to a file, a line for each entry, is read from it.** -/
theorem parse_joinFields {es : List String} (hnodup : es.Nodup) (h : ∀ e ∈ es, IsPlain e) :
    parse (Text.joinFields ['\n'] (es.map String.toList)) = es := by
  rw [parse_eq_add, entries_joinFields h, add_of_nodup hnodup (by simp), List.nil_append]

end FileList

/-! ## Imports -/

namespace Workspace

variable {w : Workspace} {tree once : FileTree} {first second joined : String} {content more : Text}
  {n : Nat}

theorem importFiles_eq {path : String} (h : tree.readText w.dir path = .ok content) :
    w.importFiles tree path = w.addFiles tree (FileList.parse content) := by
  rw [importFiles, readList, h]
  rfl

/-- **Importing two list files in turn is importing them together**, one behind the other. -/
theorem importFiles_importFiles (hfirst : tree.readText w.dir first = .ok content)
    (hsecond : once.readText w.dir second = .ok more)
    (hjoined : tree.readText w.dir joined = .ok (content ++ '\n' :: more))
    (himport : w.importFiles tree first = .ok (n, once)) :
    ∃ m twice, w.importFiles once second = .ok (m, twice) ∧
      w.importFiles tree joined = .ok (n + m, twice) := by
  rw [importFiles_eq hfirst] at himport
  rw [importFiles_eq hsecond, importFiles_eq hjoined, FileList.parse_append]
  obtain ⟨c, hload, hsaved⟩ := bind_eq_ok_iff.1 himport
  obtain ⟨saved, hsave, -⟩ := bind_eq_ok_iff.1 hsaved
  obtain ⟨written, htree, hwritten⟩ := exists_editable hload hsave
  obtain ⟨n', m, once', twice, hadd, hagain, htogether⟩ :=
    htree.addFiles_addFiles hwritten (FileList.parse content) (FileList.parse more)
  rw [himport] at hadd
  cases hadd
  refine ⟨m, twice, hagain, ?_⟩
  have hsame : FileList.add c.files (FileList.add (FileList.parse content) (FileList.parse more)) =
      FileList.add c.files (FileList.parse content ++ FileList.parse more) := by
    rw [FileList.add_assoc, FileList.add_append]
  rw [← htogether, htree.addFiles_eq, htree.addFiles_eq, hsame, FileList.count_merge_congr hsame]

end Workspace

/-! ## Laws -/

namespace FileList

/-- **What a list file holds, and how list files combine.**

* An entry is listed once, exactly if it stands on some line, and in the order of appearance.
* Carriage returns in front of the line feeds make no difference.
* The entries of two files, one behind the other, are those of the second added to those of the
  first. Importing the two in turn leaves the same tree as importing them together, and the counts
  add up.
* Different entries that can be written on a line are read back from a file with a line for each. -/
theorem list_file_laws (content : Text) :
    ((parse content).Nodup ∧
      (∀ e, e ∈ parse content ↔ ∃ line ∈ Text.lines content, StandsOn e line) ∧
      (parse content).Pairwise (AppearsBefore content)) ∧
    parse (Text.withCarriageReturns content) = parse content ∧
    (∀ more, parse (content ++ '\n' :: more) = add (parse content) (parse more) ∧
      ∀ (w : Workspace) (tree once : FileTree) (first second joined : String) (n : Nat),
        tree.readText w.dir first = .ok content → once.readText w.dir second = .ok more →
          tree.readText w.dir joined = .ok (content ++ '\n' :: more) →
            w.importFiles tree first = .ok (n, once) →
              ∃ m twice, w.importFiles once second = .ok (m, twice) ∧
                w.importFiles tree joined = .ok (n + m, twice)) ∧
    ∀ es : List String, es.Nodup → (∀ e ∈ es, IsPlain e) →
      parse (Text.joinFields ['\n'] (es.map String.toList)) = es := by
  refine ⟨⟨?_, fun e => mem_parse_iff, pairwise_appearsBefore content⟩, ?_, ?_, ?_⟩
  · rw [parse_eq_add]
    exact nodup_add List.nodup_nil
  · rw [parse_eq_add, parse_eq_add, entries_withCarriageReturns]
  · intro more
    refine ⟨parse_append content more, ?_⟩
    intro w tree once first second joined n hfirst hsecond hjoined himport
    exact Workspace.importFiles_importFiles hfirst hsecond hjoined himport
  · intro es hnodup h
    exact parse_joinFields hnodup h

/-- Two list files and a third one with both in it are imported in a workspace without
a configuration. -/
theorem list_file_laws_import :
    let content := "# pages\n./b\r\n\n c \n./b".toList
    let more := "c\n#\nd".toList
    let w : Workspace := ⟨"/", []⟩
    let tree : FileTree :=
      ⟨[(["first"], .newFile (.text content)), (["second"], .newFile (.text more)),
        (["joined"], .newFile (.text (content ++ '\n' :: more)))]⟩
    (parse content = ["b", "c"] ∧ parse (content ++ '\n' :: more) = ["b", "c", "d"]) ∧
    (∃ once m twice, w.importFiles tree "/first" = .ok (2, once) ∧
      w.importFiles once "/second" = .ok (m, twice) ∧
      w.importFiles tree "/joined" = .ok (2 + m, twice)) ∧
    parse "a b\nb/#".toList = ["a b", "b/#"] := by
  intro content more w tree
  obtain ⟨-, -, hjoin, hplain⟩ := list_file_laws content
  obtain ⟨hparse, himports⟩ := hjoin more
  have hcontent : parse content = ["b", "c"] := by decide
  have hfirst : tree.lookup w.dir "/first" = .ok (.item ["first"]) :=
    FileTree.lookup_of_file (by decide) (by decide) (by decide) rfl
  have hjoined : tree.lookup w.dir "/joined" = .ok (.item ["joined"]) :=
    FileTree.lookup_of_file (by decide) (by decide) (by decide) rfl
  have hread : tree.readText w.dir "/first" = .ok content := FileTree.readText_of_lookup hfirst rfl
  have hload : w.load tree = .ok .default := Workspace.load_at_top (by decide)
  -- the first import makes the configuration file and leaves the second list file as it is
  obtain ⟨once, hsave, hkept⟩ := Workspace.exists_save_at_top tree (by decide)
    { Config.default with files := Config.defaultFiles ++ ["b", "c"] }
  have himport : w.importFiles tree "/first" = .ok (2, once) := by
    rw [Workspace.importFiles_eq hread, hcontent]
    exact bind_eq_ok_iff.2 ⟨_, hload, bind_eq_ok_iff.2 ⟨once, hsave, rfl⟩⟩
  have hitem : once.item? ["second"] = some (.newFile (.text more)) := hkept _ (by decide)
  have hsecond : once.lookup w.dir "/second" = .ok (.item ["second"]) :=
    FileTree.lookup_of_file (by decide) (by decide) (by decide) hitem
  obtain ⟨m, twice, hagain, htogether⟩ := himports w tree once "/first" "/second" "/joined" 2 hread
    (FileTree.readText_of_lookup hsecond hitem) (FileTree.readText_of_lookup hjoined rfl) himport
  refine ⟨⟨hcontent, ?_⟩, ⟨once, m, twice, himport, hagain, htogether⟩, ?_⟩
  · rw [hparse, hcontent]
    decide
  · refine hplain ["a b", "b/#"] (by decide) ?_
    intro e he
    simp only [List.mem_cons, List.not_mem_nil, or_false] at he
    rcases he with rfl | rfl
    · exact ⟨by decide, by decide, by decide, by decide, by decide⟩
    · exact ⟨by decide, by decide, by decide, by decide, by decide⟩

end FileList

end PageShell
