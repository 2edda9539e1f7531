import PageShell.Proofs.Outcomes
import PageShell.Proofs.Visits

/-!
# What a report tells

A report has one entry for each listed file, whatever fails on the way. What an entry says about
its file fits together: the category, the anchor and the result are those of the text that the
visit has read, or there was none to read.

Results:

* `Work.Visited.fits`: the entry of a visit fits, unless the write of the file is refused.
* `Work.report_complete`: the entries of a run are complete, and they fit.
-/

namespace PageShell

/-! ## Entries -/

/-- What the entry of a file says fits together, and it fits the tree that the file is found in. -/
structure Entry.Fits (r : Runner) (tree : FileTree) (file : String) (e : Entry) : Prop where
  path_eq : e.path = file
  /-- Without a text there is no category. -/
  category_eq_none_iff : e.category = none ↔
    (∃ path, e.result = .error (.missing path)) ∨ ∃ reason, e.result = .error (.io reason)
  category_eq : ∀ c, e.category = some c → c = r.config.classify file
  anchor_isSome_iff : e.anchor.isSome = true ↔
    e.result = .ok .wrapped ∨ ∃ a, e.result = .error (.unbalanced a)
  anchor_of_unbalanced : ∀ a, e.result = .error (.unbalanced a) → e.anchor = some a
  /-- The anchor is the last one of the text that the file has. -/
  last_of_anchor : ∀ a, e.anchor = some a → ∃ t start,
    tree.readText r.workspace.dir (r.workspace.resolve file) = .ok t ∧
      (r.wrapping.locator.spans t).getLast? = some (a, start)

namespace Runner

variable {r : Runner} {tree : FileTree} {file : String}

/-- The entry of a file without a text fits. -/
theorem fits_of_unread {error : FileError}
    (h : (∃ path, error = .missing path) ∨ ∃ reason, error = .io reason) :
    (entry file (.error error)).Fits r tree file where
  path_eq := rfl
  category_eq_none_iff := by
    refine ⟨fun _ => ?_, fun _ => rfl⟩
    rcases h with ⟨path, rfl⟩ | ⟨reason, rfl⟩
    · exact .inl ⟨path, rfl⟩
    · exact .inr ⟨reason, rfl⟩
  category_eq := by
    intro c hc
    cases hc
  anchor_isSome_iff := by
    rcases h with ⟨path, rfl⟩ | ⟨reason, rfl⟩
    · simp [entry]
    · simp [entry]
  anchor_of_unbalanced := by
    intro a ha
    rcases h with ⟨path, rfl⟩ | ⟨reason, rfl⟩
    · cases ha
    · cases ha
  last_of_anchor := by
    intro a ha
    cases ha

/-- The entry of a page fits. -/
theorem fits_of_preview {p : Page} (h : r.preview tree file = .ok p) :
    (entry file (.ok p)).Fits r tree file where
  path_eq := rfl
  category_eq_none_iff := by
    obtain ⟨location, before, category, outcome⟩ := p
    cases outcome with
    | wrapped | alreadyWrapped | noRegion | unbalanced => simp [entry, result]
  category_eq := by
    intro c hc
    cases hc
    exact category_of_preview h
  anchor_isSome_iff := by
    obtain ⟨location, before, category, outcome⟩ := p
    cases outcome with
    | wrapped | alreadyWrapped | noRegion | unbalanced => simp [entry, result, Outcome.anchor?]
  anchor_of_unbalanced := by
    obtain ⟨location, before, category, outcome⟩ := p
    intro a ha
    cases outcome with
    | unbalanced =>
      cases ha
      rfl
    | wrapped | alreadyWrapped | noRegion => cases ha
  last_of_anchor := by
    intro a ha
    obtain ⟨hlocate, htext, -, houtcome⟩ := preview_eq_ok_iff.1 h
    have hanchor : (r.wrapping.wrap p.category p.before).anchor? = some a := houtcome ▸ ha
    obtain ⟨start, hlast⟩ := Wrapping.getLast?_spans_of_wrap hanchor
    refine ⟨p.before, start, ?_, hlast⟩
    rw [FileTree.readText, hlocate]
    exact htext

end Runner

namespace Work

variable {s : Refusals} {r : Runner} {dryRun : Bool} {tree after : FileTree} {file : String}
  {e : Entry}

/-- **The entry of a visit fits**, unless the file is to be written and that is refused. -/
theorem Visited.fits (h : Visited s r dryRun tree file e after)
    (hwrite : dryRun = true ∨ ∀ u, s.write tree (r.workspace.resolve file) u = none) :
    e.Fits r tree file := by
  cases h with
  | asPlanned =>
    change (Runner.entry file (r.preview tree file)).Fits r tree file
    cases hp : r.preview tree file with
    | ok p => exact Runner.fits_of_preview hp
    | error error =>
      apply Runner.fits_of_unread
      rcases Runner.preview_error_cases hp with ⟨-, rfl⟩ | ⟨-, fault, rfl⟩
      · exact .inl ⟨_, rfl⟩
      · exact .inr ⟨_, rfl⟩
  | unread fault => exact Runner.fits_of_unread (.inr ⟨_, rfl⟩)
  | unwritten fault p u a hdry hp hu hrefused =>
    rcases hwrite with hwrite | hwrite
    · rw [hdry] at hwrite
      cases hwrite
    · rw [hwrite u] at hrefused
      cases hrefused

/-- **Reports are complete and consistent.** Whatever is refused, a run gives a report with one
entry for each listed file, in the order of the list, and its tallies add up to the number of these.
The entry of a file fits the tree that the visits before it leave, unless the file is to be written
and that is refused. If nothing is refused, this is the report of the run at once. -/
theorem report_complete (s : Refusals) (r : Runner) (dryRun : Bool) (tree : FileTree) :
    (∃ report log after, (runFiles s r dryRun).run tree = .ok (report, log) after ∧
      report.entries.map Entry.path = r.config.files ∧
      report.wrapped + report.alreadyWrapped + report.failed = r.config.files.length ∧
      ∀ before file rest, r.config.files = before ++ file :: rest →
        ∃ earlier seen mid e, (tour s r dryRun before).run tree = .ok (earlier, seen) mid ∧
          report.entries[before.length]? = some e ∧
          ((dryRun = true ∨ ∀ u, s.write mid (r.workspace.resolve file) u = none) →
            e.Fits r mid file)) ∧
      (runFiles .nothing r dryRun).run tree =
        .ok ((r.run dryRun tree).report, (r.run dryRun tree).log) (r.run dryRun tree).tree := by
  refine ⟨?_, run_of_result (result_runFiles r dryRun)⟩
  obtain ⟨es, log, seen, after, hrun, htour⟩ := exists_report s r dryRun tree
  have hpaths := paths_tour htour
  refine ⟨⟨dryRun, es⟩, log, after, hrun, hpaths, ?_, ?_⟩
  · rw [Report.tally_add, ← hpaths, List.length_map]
  · intro before file rest hfiles
    rw [hfiles] at htour
    obtain ⟨earlier, seen, mid, e, own, left, later, last, hbefore, hvisit, -, hentry⟩ :=
      exists_visit htour
    exact ⟨earlier, seen, mid, e, hbefore, hentry, (visited_of_run hvisit).fits⟩

end Work

end PageShell
