import PageShell.Proofs.Issues
import PageShell.Proofs.Preview
import PageShell.Proofs.Saving
import PageShell.Proofs.Visits
import PageShell.Proofs.Wrapping

/-!
# Commands that tell of the same files

Looking for problems, listing the files and running over them are three ways through the list. They
find the same files missing, and where a run has a category for a file, the others have the same
one: in their lines, and in the tag that the run puts into the file.

Results:

* `Config.filter_isMissingFile`: the issues about missing files are one for each.
* `filter_messages`, `Workspace.filter_listLines`: what is said of them, by how a line begins.
* `Work.Visited.exists_tag`: a file that has been wrapped has the tag of its category.
* `Workspace.commands_agree`: problems, list and run tell of the same files.
-/

namespace PageShell

/-! ## How lines begin -/

/-- Whether a line begins with some words. -/
def beginsWith (start line : String) : Bool := start.toList.isPrefixOf line.toList

theorem beginsWith_append (start rest : String) : beginsWith start (start ++ rest) = true := by
  rw [beginsWith, String.toList_append, List.isPrefixOf_iff_prefix]
  exact List.prefix_append _ _

/-- Words that differ in the first character do not begin the same line. -/
theorem beginsWith_eq_false {start first : String} {x y : Char}
    (hx : start.toList.head? = some x) (hy : first.toList.head? = some y) (hne : x ≠ y)
    (rest : String) : beginsWith start (first ++ rest) = false := by
  obtain ⟨xs, hxs⟩ := List.head?_eq_some_iff.1 hx
  obtain ⟨ys, hys⟩ := List.head?_eq_some_iff.1 hy
  rw [beginsWith, String.toList_append, hxs, hys, List.cons_append, List.isPrefixOf,
    beq_eq_false_iff_ne.2 hne, Bool.false_and]

/-! ## Missing files among the problems -/

/-- Whether a problem is that a file is missing. -/
def Issue.isMissingFile : Issue → Bool
  | missingFile _ => true
  | _ => false

/-- Only of a missing file it is said that a file was not found. -/
theorem beginsWith_message (issue : Issue) :
    beginsWith "File not found: " issue.message = issue.isMissingFile := by
  cases issue with
  | missingFile file => exact beginsWith_append _ file
  | noFiles => decide
  | _ =>
    unfold Issue.message
    simp only [String.append_assoc]
    exact beginsWith_eq_false rfl rfl (by decide) _

namespace Config

variable {isPresent : String → Bool}

theorem filter_fileIssuesBehind (seen files : List String) :
    (fileIssuesBehind isPresent seen files).filter Issue.isMissingFile =
      (files.filter fun file => !isPresent file).map .missingFile := by
  induction files generalizing seen with
  | nil => rfl
  | cons file files ih =>
    have hduplicate : (if file ∈ seen then [Issue.duplicateFile file] else []).filter
        Issue.isMissingFile = [] := by
      split
      · rfl
      · rfl
    rw [fileIssuesBehind, List.filter_append, List.filter_append, hduplicate, List.nil_append, ih]
    cases hpresent : isPresent file with
    | true =>
      rw [List.filter_cons_of_neg (by simp [hpresent])]
      rfl
    | false =>
      rw [List.filter_cons_of_pos (by simp [hpresent])]
      rfl

/-- **There is one issue for each file that is missing**, in the order of the list. -/
theorem filter_isMissingFile [PatternReader] (isPresent : String → Bool) (c : Config) :
    (c.issues isPresent).filter Issue.isMissingFile =
      (c.files.filter fun file => !isPresent file).map .missingFile := by
  have habout : ∀ issue : Issue,
      (issue.isMissingFile && issue.isAboutFile) = issue.isMissingFile := by
    intro issue
    cases issue <;> rfl
  have hnone : (if c.files.isEmpty then [Issue.noFiles] else []).filter
      Issue.isMissingFile = [] := by
    split
    · rfl
    · rfl
  have hfilter := congrArg (List.filter Issue.isMissingFile) (filter_isAboutFile isPresent c)
  simp only [List.filter_filter, habout] at hfilter
  rw [hfilter, fileIssues, List.filter_append, hnone, List.nil_append, filter_fileIssuesBehind]

end Config

namespace Workspace

variable {w : Workspace} {tree : FileTree} {c : Config}

/-- The listed files that are not there, in the order of the list. -/
def absent (w : Workspace) (tree : FileTree) (c : Config) : List String :=
  c.files.filter fun file => !w.isPresent tree file

/-- **The messages that say that a file was not found** are one for each file that is not there. -/
theorem filter_messages [PatternReader] (w : Workspace) (tree : FileTree) (c : Config) :
    ((w.issues tree c).map Issue.message).filter (beginsWith "File not found: ") =
      (w.absent tree c).map ("File not found: " ++ ·) := by
  have hbegins : beginsWith "File not found: " ∘ Issue.message = Issue.isMissingFile :=
    funext beginsWith_message
  rw [List.filter_map, hbegins, issues, Config.filter_isMissingFile, List.map_map]
  rfl

/-! ## Missing files in the list -/

/-- The line of a file in the list. -/
def listLine (w : Workspace) (tree : FileTree) (c : Config) (file : String) : String :=
  (if w.isPresent tree file then "📄 " else "❓ ") ++ file ++ " → " ++ (c.classify file).label

theorem listLines_of_ne_nil (h : c.files ≠ []) :
    w.listLines tree c = c.files.map (w.listLine tree c) :=
  if_neg (mt List.isEmpty_iff.1 h)

theorem beginsWith_listLine (w : Workspace) (tree : FileTree) (c : Config) (file : String) :
    beginsWith "❓ " (w.listLine tree c file) = !w.isPresent tree file := by
  unfold listLine
  cases w.isPresent tree file with
  | true =>
    simp only [if_true, String.append_assoc]
    exact beginsWith_eq_false rfl rfl (by decide) _
  | false =>
    simp only [Bool.false_eq_true, if_false, String.append_assoc]
    exact beginsWith_append _ _

/-- **The lines that begin with a question mark** are one for each file that is not there. -/
theorem filter_listLines (w : Workspace) (tree : FileTree) (c : Config) :
    (w.listLines tree c).filter (beginsWith "❓ ") =
      (w.absent tree c).map fun file => "❓ " ++ file ++ " → " ++ (c.classify file).label := by
  by_cases h : c.files = []
  · have hline : beginsWith "❓ " "No files configured." = false := by decide
    simp only [listLines, absent, h, List.isEmpty_nil, if_true, List.filter_cons, hline,
      Bool.false_eq_true, if_false, List.filter_nil, List.map_nil]
  · have hbegins : beginsWith "❓ " ∘ w.listLine tree c = fun file => !w.isPresent tree file := by
      funext file
      rw [Function.comp_apply, beginsWith_listLine]
    rw [listLines_of_ne_nil h, List.filter_map, hbegins]
    refine List.map_congr_left fun file hfile => ?_
    have habsent := (List.mem_filter.1 hfile).2
    rw [Bool.not_eq_true'] at habsent
    rw [listLine, habsent]
    rfl

end Workspace

/-! ## Tags -/

/-- A file that is wrapped has the tag of its category behind the head of its region. -/
theorem Wrapping.exists_splice (w : Wrapper) (c : Category) (region : Region) :
    ∃ behind, splice w c region =
      region.head ++ Wrapper.innerBreak ++ w.openingTag c ++ behind := by
  refine ⟨?_, ?_⟩
  · exact Wrapper.innerBreak ++ Text.trim region.inner ++ Wrapper.outerBreak ++ w.closingTag ++
      Wrapper.outerBreak ++ region.tail
  · simp only [splice, Wrapper.render, List.append_assoc]

namespace Work

variable {s : Refusals} {r : Runner} {tree left after : FileTree} {file : String} {e : Entry}

/-- **A file that has been wrapped has the tag of its category**, in front of the region that was
located in its text, whatever is visited later. -/
theorem Visited.exists_tag (h : Visited s r false tree file e left)
    (hresult : e.result = .ok .wrapped) {rest : List String} {later : List Entry}
    {log : List Log.Record} (htour : (tour s r false rest).run left = .ok (later, log) after) :
    ∃ t region behind, tree.readText r.workspace.dir (r.workspace.resolve file) = .ok t ∧
      r.wrapping.locator.locate t = .ok region ∧
      after.readText r.workspace.dir (r.workspace.resolve file) =
        .ok (region.head ++ Wrapper.innerBreak ++
          r.wrapping.wrapper.openingTag (r.config.classify file) ++ behind) := by
  obtain ⟨rfl, rfl⟩ := h.eq_visit_of_wrapped hresult
  change (Runner.entry file (r.preview tree file)).result = .ok .wrapped at hresult
  cases hp : r.preview tree file with
  | error error =>
    rw [hp] at hresult
    cases hresult
  | ok p =>
    obtain ⟨hlocate, htext, hcategory, houtcome⟩ := Runner.preview_eq_ok_iff.1 hp
    have hshape := sameShape_tour htour
    have hitem := item?_tour_of_settled (Runner.settled_visit hlocate) htour
    have hleft := Runner.textAt_visit hp
    have hplace := (r.visit_sameShape tree file).trans hshape
    rw [hp, ← Entry.isWrapped_iff, Runner.isWrapped_entry] at hresult
    cases hu : p.outcome with
    | wrapped u a =>
      rw [houtcome] at hu
      obtain ⟨region, hregion, rfl, -⟩ := Wrapping.exists_locate_of_wrap hu
      obtain ⟨behind, hbehind⟩ := Wrapping.exists_splice r.wrapping.wrapper p.category region
      refine ⟨p.before, region, behind, ?_, hregion, ?_⟩
      · rw [FileTree.readText, hlocate]
        exact htext
      · have hshown : p.shown.text = Wrapping.splice r.wrapping.wrapper p.category region := by
          change p.outcome.textAfter p.before = _
          rw [houtcome, hu]
          rfl
        rw [FileTree.readText, ← hplace.locate_eq, hlocate, ← hcategory, ← hbehind, ← hshown,
          ← hleft]
        exact Runner.textAt_eq_of_item? hitem
    | alreadyWrapped | noRegion | unbalanced =>
      rw [hu] at hresult
      cases hresult

end Work

namespace Workspace

variable {w : Workspace} {tree : FileTree} {r : Runner}

/-! ## Categories -/

theorem getElem?_listLines {c : Config} {before rest : List String} {file : String}
    (h : c.files = before ++ file :: rest) :
    (w.listLines tree c)[before.length]? = some (w.listLine tree c file) := by
  have hne : c.files ≠ [] := by
    rw [h]
    exact List.append_ne_nil_of_right_ne_nil _ (List.cons_ne_nil _ _)
  rw [listLines_of_ne_nil hne, h, List.map_append, List.map_cons,
    List.getElem?_append_right (Nat.le_of_eq (List.length_map _)), List.length_map, Nat.sub_self]
  rfl

theorem performClassify_eq {c : Config} (hload : w.load tree = .ok c) (paths : List String) :
    Command.performClassify w tree paths =
      .ok (.ofOutput (paths.map fun path => path ++ ": " ++ (c.classify path).label)) := by
  rw [Command.performClassify, hload]
  rfl

/-! ## The story -/

/-- **Problems, list and run tell of the same files.** The files that are reported as not found, the
files that the list shows with a question mark and the files that a run reports as missing are the
listed files that are not there, in the order of the list. A file that has a category in a run has
the same one in the list and where it is classified, and if the run wraps it, its text has the tag
of that category from then on, in front of the region that was located in it. -/
theorem commands_agree [PatternReader] (h : Runner.load w tree = .ok r) :
    let c := r.config
    (w.load tree = .ok c ∧
      Command.performValidate w tree = .ok (Command.validateResponse (w.issues tree c)) ∧
      Command.performList w tree = .ok (.ofOutput (w.listLines tree c))) ∧
    ((w.issues tree c).map Issue.message).filter (beginsWith "File not found: ") =
      (w.absent tree c).map ("File not found: " ++ ·) ∧
    (w.listLines tree c).filter (beginsWith "❓ ") =
      (w.absent tree c).map (fun file => "❓ " ++ file ++ " → " ++ (c.classify file).label) ∧
    ∀ s dryRun, ∃ report log after, (Work.runFiles s r dryRun).run tree = .ok (report, log) after ∧
      (report.entries.filter Entry.isMissing).map Entry.path = w.absent tree c ∧
      ∀ before file rest, c.files = before ++ file :: rest →
        ∃ e, report.entries[before.length]? = some e ∧ e.path = file ∧
          ∀ k, e.category = some k →
            (w.listLines tree c)[before.length]? = some ("📄 " ++ file ++ " → " ++ k.label) ∧
            (∀ (paths : List String) (i : Nat), paths[i]? = some file →
              ∃ lines, Command.performClassify w tree paths = .ok (.ofOutput lines) ∧
                lines[i]? = some (file ++ ": " ++ k.label)) ∧
            (dryRun = false → e.result = .ok .wrapped →
              ∃ earlier seen mid t region behind,
                (Work.tour s r dryRun before).run tree = .ok (earlier, seen) mid ∧
                mid.readText w.dir (w.resolve file) = .ok t ∧
                r.wrapping.locator.locate t = .ok region ∧
                after.readText w.dir (w.resolve file) = .ok (region.head ++ Wrapper.innerBreak ++
                  c.wrapper.openingTag k ++ behind)) := by
  obtain ⟨hload, rfl, hwrapping⟩ := Runner.load_eq_ok_iff.1 h
  refine ⟨⟨hload, ?_, ?_⟩, filter_messages _ tree _, filter_listLines _ tree _, ?_⟩
  · rw [Command.performValidate, hload]
    rfl
  · rw [Command.performList, hload]
    rfl
  · intro s dryRun
    obtain ⟨es, log, seen, after, hrun, htour⟩ := Work.exists_report s r dryRun tree
    refine ⟨⟨dryRun, es⟩, log, after, hrun, Work.missing_tour htour, ?_⟩
    intro before file rest hfiles
    rw [hfiles] at htour
    obtain ⟨earlier, seen, mid, e, own, left, later, last, hbefore, hvisit, hrest, hentry⟩ :=
      Work.exists_visit htour
    have hvisited := Work.visited_of_run hvisit
    refine ⟨e, hentry, hvisited.path_eq, fun k hk => ?_⟩
    obtain ⟨p, hp, rfl⟩ := hvisited.exists_preview hk
    rw [Runner.category_of_preview hp]
    refine ⟨?_, ?_, ?_⟩
    · have hpresent : r.workspace.isPresent tree file = true :=
        (Runner.isPresent_congr (Work.sameShape_tour hbefore)).symm.trans
          (Runner.isPresent_of_preview hp)
      rw [getElem?_listLines hfiles, listLine, hpresent]
      rfl
    · intro paths i hi
      refine ⟨_, performClassify_eq hload paths, ?_⟩
      rw [List.getElem?_map, hi]
      rfl
    · rintro rfl hresult
      obtain ⟨t, region, behind, htext, hregion, hafter⟩ := hvisited.exists_tag hresult hrest
      rw [Config.wrapper_of_wrapping? hwrapping] at hafter
      exact ⟨earlier, seen, mid, t, region, behind, hbefore, htext, hregion, hafter⟩

/-- A workspace lists a page that is not wrapped yet, and a file that is not there. -/
theorem commands_agree_page :
    let c : Config := { Config.default with files := ["Page.jsx", "gone.jsx"] }
    let w : Workspace := ⟨"/", []⟩
    let tree : FileTree := ⟨[(["Page.jsx"], .newFile (.text "return ( <A/> )".toList))]⟩
    ∃ saved r, w.save tree c = .ok saved ∧ Runner.load w saved = .ok r ∧ r.config = c ∧
      ((w.issues saved c).map Issue.message).filter (beginsWith "File not found: ") =
        ["File not found: gone.jsx"] ∧
      (w.listLines saved c).filter (beginsWith "❓ ") = ["❓ gone.jsx → admin"] ∧
      (∀ s dryRun, ∃ report log after,
        (Work.runFiles s r dryRun).run saved = .ok (report, log) after ∧
          (report.entries.filter Entry.isMissing).map Entry.path = ["gone.jsx"]) ∧
      (w.listLines saved c)[0]? = some "📄 Page.jsx → admin" ∧
      ∃ report log after behind,
        (Work.runFiles .nothing r false).run saved = .ok (report, log) after ∧
          report.entries[0]? = some ⟨"Page.jsx", some .admin, some 0, .ok .wrapped⟩ ∧
          after.readText w.dir (w.resolve "Page.jsx") = .ok ("return (".toList ++
            Wrapper.innerBreak ++ c.wrapper.openingTag .admin ++ behind) := by
  intro c w tree
  obtain ⟨saved, hsave, hkept⟩ := exists_save_at_top tree (by decide) c
  have hitem : saved.item? ["Page.jsx"] = some (.newFile (.text "return ( <A/> )".toList)) :=
    hkept _ (by decide)
  have hlookup : saved.lookup w.dir (w.resolve "Page.jsx") = .ok (.item ["Page.jsx"]) :=
    FileTree.lookup_of_file (by decide) (by decide) (by decide) hitem
  have hpresent : w.isPresent saved "Page.jsx" = true :=
    FileTree.isPresent_of_readText (FileTree.readText_of_lookup hlookup hitem)
  have hgone : saved.lookup w.dir (w.resolve "gone.jsx") = .ok (.free ["gone.jsx"]) :=
    FileTree.lookup_of_name (by decide) (by decide) (by decide) (hkept _ (by decide))
  have habsent : w.isPresent saved "gone.jsx" = false := FileTree.isPresent_of_free hgone
  have hone : w.absent saved c = ["gone.jsx"] := by
    simp only [absent, c, List.filter_cons, hpresent, habsent, Bool.not_true, Bool.not_false,
      Bool.false_eq_true, if_false, if_true, List.filter_nil]
  let r : Runner := ⟨w, c, ⟨.default, .default⟩⟩
  have hr : Runner.load w saved = .ok r :=
    Runner.load_eq_ok_iff.2 ⟨load_of_save hsave, rfl, Config.wrapping?_default⟩
  have hregion : Locator.default.locate "return ( <A/> )".toList =
      .ok ⟨0, "return (".toList, " <A/> ".toList, [')']⟩ :=
    locate_return (m := " <A/> ".toList) (by decide)
  have hpage := Runner.preview_of_file (r := r) hlookup hitem
  rw [Wrapping.wrap_of_locate (by decide) hregion] at hpage
  obtain ⟨-, hissues, hlines, hruns⟩ := commands_agree hr
  refine ⟨saved, r, hsave, hr, rfl, ?_, ?_, fun s dryRun => ?_, ?_⟩
  · rw [hissues, hone]
    rfl
  · rw [hlines, hone]
    decide
  · obtain ⟨report, log, after, hrun, hmissing, -⟩ := hruns s dryRun
    exact ⟨report, log, after, hrun, hmissing.trans hone⟩
  · -- the run wraps the page, so its entry has a category, and its text the tag of the category
    obtain ⟨report, log, after, hrun, -, hfiles⟩ := hruns .nothing false
    obtain ⟨e, hentry, -, htells⟩ := hfiles [] "Page.jsx" ["gone.jsx"] rfl
    have hdone := hrun
    rw [Work.run_runFiles] at hdone
    cases hdone
    have he : some (Runner.entry "Page.jsx" (r.preview saved "Page.jsx")) = some e := hentry
    rw [hpage] at he
    cases he
    obtain ⟨hline, -, htag⟩ := htells .admin rfl
    obtain ⟨earlier, seen, mid, t, region, behind, hbefore, htext, hlocate, hafter⟩ := htag rfl rfl
    cases hbefore
    rw [FileTree.readText_of_lookup hlookup hitem] at htext
    cases htext
    obtain rfl := Except.ok.inj (hlocate.symm.trans hregion)
    exact ⟨hline, _, _, _, behind, hrun, hentry, hafter⟩

end Workspace

end PageShell
