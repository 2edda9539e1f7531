import PageShell.Proofs.Issues
import PageShell.Proofs.Saving
import PageShell.Proofs.Visits
import PageShell.Proofs.Wrapping

/-!
# Configurations without issues

A configuration without issues is one that can be used: every file is there and listed once, every
rule can match, the pattern can be read and every name is one. No run makes a listed file go away,
so with such a configuration no file is ever reported as missing.

Results:

* `isIdentifier_iff_isName`: what is taken for a name.
* `Config.fileIssues_eq_nil_iff`, `Config.anchorIssues_eq_nil_iff`,
  `Config.wrapperIssues_eq_nil_iff`: when a part of a configuration has no issues.
* `Config.issues_eq_nil_iff`: a configuration has no issues if it is usable.
* `Work.exists_reports`: if all files are there, no run reports one as missing.
* `Workspace.usable_of_no_issues`: what it is worth that a configuration has no issues.
-/

namespace PageShell

/-! ## Names -/

/-- A letter from `A` to `Z` in either case, `_` or `$`. -/
def IsNameStart (c : Char) : Prop :=
  ('A' ≤ c ∧ c ≤ 'Z') ∨ ('a' ≤ c ∧ c ≤ 'z') ∨ c = '_' ∨ c = '$'

/-- What may start a name, or a decimal digit. -/
def IsNamePart (c : Char) : Prop := IsNameStart c ∨ ('0' ≤ c ∧ c ≤ '9')

/-- A name, as in `[A-Za-z_$][A-Za-z0-9_$]*`. -/
def IsName (name : String) : Prop :=
  ∃ c rest, name.toList = c :: rest ∧ IsNameStart c ∧ ∀ d ∈ rest, IsNamePart d

theorem isIdentifierStart_iff (c : Char) : isIdentifierStart c = true ↔ IsNameStart c := by
  simp only [isIdentifierStart, IsNameStart, Bool.or_eq_true, beq_iff_eq, isAlpha_iff, or_assoc]

theorem isIdentifierPart_iff (c : Char) : isIdentifierPart c = true ↔ IsNamePart c := by
  rw [IsNamePart, ← isIdentifierStart_iff]
  simp only [isIdentifierPart, isIdentifierStart, Bool.or_eq_true, beq_iff_eq, isAlphanum_iff]
  grind

/-- **What is taken for a name.** -/
theorem isIdentifier_iff_isName (name : String) : isIdentifier name = true ↔ IsName name := by
  rw [isIdentifier_iff]
  simp only [isIdentifierStart_iff, isIdentifierPart_iff, IsName]

namespace Config

/-! ## Parts without issues -/

section Parts

variable {isPresent : String → Bool} {files seen : List String}

theorem fileIssuesBehind_eq_nil_iff :
    fileIssuesBehind isPresent seen files = [] ↔
      files.Nodup ∧ (∀ file ∈ files, isPresent file = true) ∧ ∀ file ∈ files, file ∉ seen := by
  induction files generalizing seen with
  | nil => simp [fileIssuesBehind]
  | cons file files ih =>
    simp only [fileIssuesBehind, List.append_eq_nil_iff, ih, ite_eq_right_iff, ite_eq_left_iff,
      List.cons_ne_nil, imp_false, List.nodup_cons, List.mem_cons]
    grind

/-- **Files have no issues** if there are any, each is listed once and each is there. -/
theorem fileIssues_eq_nil_iff :
    fileIssues isPresent files = [] ↔
      files ≠ [] ∧ files.Nodup ∧ ∀ file ∈ files, isPresent file = true := by
  simp only [fileIssues, List.append_eq_nil_iff, fileIssuesBehind_eq_nil_iff, ite_eq_right_iff,
    List.cons_ne_nil, imp_false, List.isEmpty_iff, List.not_mem_nil, not_false_eq_true,
    implies_true, and_true]

/-- **An anchor has no issues** if its pattern can be read and its delimiters differ. -/
theorem anchorIssues_eq_nil_iff [PatternReader] {a : AnchorSettings} :
    anchorIssues a = [] ↔
      (∃ p, PatternReader.read a.pattern.toList = .ok p) ∧ a.opening ≠ a.closing := by
  have hpattern : patternIssues a.pattern = [] ↔
      ∃ p, PatternReader.read a.pattern.toList = .ok p := by
    unfold patternIssues
    cases PatternReader.read a.pattern.toList with
    | ok p => simp
    | error complaint => simp
  simp only [anchorIssues, List.append_eq_nil_iff, hpattern, ite_eq_right_iff, List.cons_ne_nil,
    imp_false, ne_eq]

/-- **A wrapper has no issues** if it is made of names and passes different variables through. -/
theorem wrapperIssues_eq_nil_iff {w : Wrapper} :
    wrapperIssues w = [] ↔ IsName w.component ∧ IsName w.roleAttribute ∧
      IsName w.passThrough.1 ∧ IsName w.passThrough.2 ∧ w.passThrough.1 ≠ w.passThrough.2 := by
  simp only [wrapperIssues, List.append_eq_nil_iff, ite_eq_right_iff, ite_eq_left_iff,
    List.cons_ne_nil, imp_false, Classical.not_not, List.map_eq_nil_iff, List.filter_eq_nil_iff,
    List.forall_mem_cons, List.not_mem_nil, false_imp_iff, implies_true, and_true,
    isIdentifier_iff_isName, Bool.not_eq_true', Bool.not_eq_false, ne_eq, and_assoc]

end Parts

/-! ## Usable configurations -/

/-- A configuration that can be used in a workspace. -/
structure IsUsable [PatternReader] (w : Workspace) (tree : FileTree) (c : Config) : Prop where
  version_eq : c.version = "1.0"
  files_ne_nil : c.files ≠ []
  files_nodup : c.files.Nodup
  exists_item : ∀ file ∈ c.files, ∃ loc,
    tree.lookup w.dir (Path.join w.root file) = .ok (.item loc)
  isDirectoryName : ∀ rule ∈ c.rules, IsDirectoryName rule.segment
  segments_nodup : (c.rules.map Rule.segment).Nodup
  exists_pattern : ∃ p, PatternReader.read c.anchor.pattern.toList = .ok p
  delimiters_ne : c.anchor.opening ≠ c.anchor.closing
  component_isName : IsName c.wrapper.component
  roleAttribute_isName : IsName c.wrapper.roleAttribute
  passThrough_isName : IsName c.wrapper.passThrough.1 ∧ IsName c.wrapper.passThrough.2
  passThrough_ne : c.wrapper.passThrough.1 ≠ c.wrapper.passThrough.2

/-- **A configuration has no issues if it is usable.** -/
theorem issues_eq_nil_iff [PatternReader] {w : Workspace} {tree : FileTree} {c : Config} :
    w.issues tree c = [] ↔ c.IsUsable w tree := by
  simp only [Workspace.issues, issues, List.append_eq_nil_iff, ite_eq_left_iff, List.cons_ne_nil,
    imp_false, Classical.not_not, fileIssues_eq_nil_iff, ruleIssues_eq_nil_iff,
    anchorIssues_eq_nil_iff, wrapperIssues_eq_nil_iff, Workspace.isPresent, Workspace.resolve,
    FileTree.isPresent_iff]
  constructor
  · rintro ⟨⟨⟨⟨hversion, hne, hnodup, hpresent⟩, hnames, hsegments⟩, hpattern, hdelimiters⟩,
      hcomponent, hrole, hfirst, hsecond, hdiffer⟩
    exact ⟨hversion, hne, hnodup, hpresent, hnames, hsegments, hpattern, hdelimiters, hcomponent,
      hrole, ⟨hfirst, hsecond⟩, hdiffer⟩
  · intro h
    exact ⟨⟨⟨⟨h.version_eq, h.files_ne_nil, h.files_nodup, h.exists_item⟩, h.isDirectoryName,
      h.segments_nodup⟩, h.exists_pattern, h.delimiters_ne⟩,
      h.component_isName, h.roleAttribute_isName, h.passThrough_isName.1, h.passThrough_isName.2,
      h.passThrough_ne⟩

end Config

/-- A usable configuration can be put to use. -/
theorem Runner.exists_load [PatternReader] {w : Workspace} {tree : FileTree} {c : Config}
    (hload : w.load tree = .ok c) (hc : c.IsUsable w tree) :
    ∃ wrapping, Runner.load w tree = .ok ⟨w, c, wrapping⟩ := by
  obtain ⟨p, hp⟩ := hc.exists_pattern
  refine ⟨⟨⟨p, c.anchor.opening, c.anchor.closing⟩, c.wrapper⟩, load_eq_ok_iff.2 ⟨hload, rfl, ?_⟩⟩
  rw [Config.wrapping?, AnchorSettings.locator?, hp]
  rfl

namespace Work

/-! ## Runs one after the other -/

/-- Runs one after the other, each with what is refused during it. -/
def runs (r : Runner) : List (Refusals × Bool) → Work (List Report)
  | [] => return []
  | (s, dryRun) :: plan => do
    let (report, _) ← runFiles s r dryRun
    return report :: (← runs r plan)

variable {s : Refusals} {r : Runner} {dryRun : Bool} {tree after : FileTree} {es : List Entry}
  {log : List Log.Record}

/-- A run of which nothing is refused, and then others. -/
theorem run_runs_cons {dryRun : Bool} {plan : List (Refusals × Bool)} {reports : List Report}
    (h : (runs r plan).run (r.run dryRun tree).tree = .ok reports after) :
    (runs r ((.nothing, dryRun) :: plan)).run tree =
      .ok ((r.run dryRun tree).report :: reports) after := by
  rw [runs, run_bind, run_runFiles]
  change (runs r plan >>= _).run _ = _
  rw [run_bind, h]
  rfl

/-- If all files are there, none is reported as missing. -/
theorem not_isMissing_of_tour (h : (tour s r dryRun r.config.files).run tree = .ok (es, log) after)
    (hpresent : ∀ file ∈ r.config.files, r.workspace.isPresent tree file = true) :
    ∀ e ∈ es, ¬e.isMissing = true := by
  have hnone : (r.config.files.filter fun file => !r.workspace.isPresent tree file) = [] := by
    rw [List.filter_eq_nil_iff]
    intro file hfile
    rw [hpresent file hfile]
    exact Bool.false_ne_true
  have hmissing := missing_tour h
  rw [hnone, List.map_eq_nil_iff, List.filter_eq_nil_iff] at hmissing
  exact hmissing

/-- **If all files are there, no run reports one as missing**, however many runs there are and
whatever is refused. -/
theorem exists_reports (tree : FileTree) (plan : List (Refusals × Bool))
    (hpresent : ∀ file ∈ r.config.files, r.workspace.isPresent tree file = true) :
    ∃ reports after, (runs r plan).run tree = .ok reports after ∧
      reports.map Report.dryRun = plan.map Prod.snd ∧
      ∀ report ∈ reports, report.entries.map Entry.path = r.config.files ∧
        ∀ e ∈ report.entries, ¬e.isMissing = true := by
  induction plan generalizing tree with
  | nil => exact ⟨[], tree, rfl, rfl, by simp⟩
  | cons first plan ih =>
    obtain ⟨s, dryRun⟩ := first
    obtain ⟨es, log, seen, mid, hrun, htour⟩ := exists_report s r dryRun tree
    have hshape := sameShape_tour htour
    obtain ⟨reports, after, hruns, hdry, hreports⟩ := ih mid fun file hfile =>
      (Runner.isPresent_congr hshape).trans (hpresent file hfile)
    refine ⟨⟨dryRun, es⟩ :: reports, after, ?_, ?_, ?_⟩
    · rw [runs, run_bind, hrun]
      change (runs r plan >>= _).run mid = _
      rw [run_bind, hruns]
      rfl
    · rw [List.map_cons, List.map_cons, hdry]
    · rw [List.forall_mem_cons]
      exact ⟨⟨paths_tour htour, not_isMissing_of_tour htour hpresent⟩, hreports⟩

end Work

namespace Workspace

/-- **A configuration has no issues exactly if it is usable.** If it has been saved, the workspace
has it, and without issues it can be put to use: in any number of runs, with whatever is refused
during each, every listed file has its entry, and none is reported as missing. -/
theorem usable_of_no_issues [PatternReader] (w : Workspace) (tree : FileTree) (c : Config) :
    (w.issues tree c = [] ↔ c.IsUsable w tree) ∧
    (∀ before, w.save before c = .ok tree → w.load tree = .ok c) ∧
    (w.load tree = .ok c → w.issues tree c = [] →
      ∃ r, Runner.load w tree = .ok r ∧ r.config = c ∧
        ∀ plan, ∃ reports after, (Work.runs r plan).run tree = .ok reports after ∧
          reports.map Report.dryRun = plan.map Prod.snd ∧
          ∀ report ∈ reports, report.entries.map Entry.path = c.files ∧
            ∀ e ∈ report.entries, ∀ path, e.result ≠ .error (.missing path)) := by
  refine ⟨Config.issues_eq_nil_iff, fun before => load_of_save, fun hload hissues => ?_⟩
  have hc := Config.issues_eq_nil_iff.1 hissues
  obtain ⟨wrapping, hr⟩ := Runner.exists_load hload hc
  refine ⟨_, hr, rfl, fun plan => ?_⟩
  have hpresent : ∀ file ∈ c.files, w.isPresent tree file = true :=
    fun file hfile => (FileTree.isPresent_iff tree _ _).2 (hc.exists_item file hfile)
  obtain ⟨reports, after, hruns, hdry, hreports⟩ :=
    Work.exists_reports (r := ⟨w, c, wrapping⟩) tree plan hpresent
  refine ⟨reports, after, hruns, hdry, fun report hreport => ?_⟩
  obtain ⟨hpaths, hentries⟩ := hreports report hreport
  refine ⟨hpaths, fun e he path hresult => ?_⟩
  exact hentries e he (e.isMissing_iff.2 ⟨path, hresult⟩)

/-- A workspace lists a page that is not wrapped yet. The configuration has no issues once it is
saved, and a dry run and two runs that write all find the page, the last one as it has become. -/
theorem usable_of_no_issues_page :
    let c : Config := { Config.default with files := ["Page.jsx"] }
    let w : Workspace := ⟨"/", []⟩
    let tree : FileTree := ⟨[(["Page.jsx"], .newFile (.text "return ( <A/> )".toList))]⟩
    ∃ saved r, w.save tree c = .ok saved ∧ w.issues saved c = [] ∧ c.IsUsable w saved ∧
      Runner.load w saved = .ok r ∧
        ∃ reports after,
          (Work.runs r [(.nothing, true), (.nothing, false), (.nothing, false)]).run saved =
            .ok reports after ∧
          reports.map (fun report => report.entries.map Entry.result) =
            [[.ok .wrapped], [.ok .wrapped], [.ok .alreadyWrapped]] ∧
          ∀ report ∈ reports, report.entries.map Entry.path = ["Page.jsx"] ∧
            ∀ e ∈ report.entries, ∀ path, e.result ≠ .error (.missing path) := by
  intro c w tree
  obtain ⟨saved, hsave, hkept⟩ := exists_save_at_top tree (by decide) c
  have hitem : saved.item? ["Page.jsx"] = some (.newFile (.text "return ( <A/> )".toList)) :=
    hkept _ (by decide)
  have hlookup : saved.lookup w.dir (w.resolve "Page.jsx") = .ok (.item ["Page.jsx"]) :=
    FileTree.lookup_of_file (by decide) (by decide) (by decide) hitem
  have hread := FileTree.readText_of_lookup hlookup hitem
  have hfiles : Config.fileIssues (w.isPresent saved) ["Page.jsx"] = [] :=
    Config.fileIssues_eq_nil_iff.2 ⟨by decide, by decide,
      List.forall_mem_singleton.2 (FileTree.isPresent_of_readText hread)⟩
  have hissues : w.issues saved c = [] := by
    rw [issues, Config.issues, show c.files = ["Page.jsx"] from rfl, hfiles]
    decide
  have hload : w.load saved = .ok c := load_of_save hsave
  let r : Runner := ⟨w, c, ⟨.default, .default⟩⟩
  have hr : Runner.load w saved = .ok r :=
    Runner.load_eq_ok_iff.2 ⟨hload, rfl, Config.wrapping?_default⟩
  have hpage := Runner.preview_of_file (r := r) hlookup hitem
  rw [Wrapping.wrap_of_locate (by decide) (locate_return (m := " <A/> ".toList) (by decide))]
    at hpage
  have hentries : ∀ dryRun, (r.run dryRun saved).report.entries =
      [⟨"Page.jsx", some .admin, some 0, .ok .wrapped⟩] := by
    intro dryRun
    change [Runner.entry "Page.jsx" (r.preview saved "Page.jsx")] = _
    rw [hpage]
    rfl
  -- the first run that writes wraps the page, and the second one finds it wrapped
  have hagain := (r.tree_and_entries_again saved).2
  rw [hentries] at hagain
  have hwrites : (Work.runs r [(.nothing, false), (.nothing, false)]).run (r.run true saved).tree =
      .ok [(r.run false saved).report, (r.run false (r.run false saved).tree).report]
        (r.run false (r.run false saved).tree).tree := by
    rw [Runner.run_dryRun]
    exact Work.run_runs_cons (Work.run_runs_cons rfl)
  have hrun := Work.run_runs_cons hwrites
  obtain ⟨husable, -, hruns⟩ := usable_of_no_issues w saved c
  obtain ⟨r', hr', -, hreports⟩ := hruns hload hissues
  rw [hr] at hr'
  cases hr'
  obtain ⟨reports, after, hplan, -, hfound⟩ :=
    hreports [(.nothing, true), (.nothing, false), (.nothing, false)]
  rw [hrun] at hplan
  cases hplan
  refine ⟨saved, r, hsave, hissues, husable.1 hissues, hr, _, _, hrun, ?_, hfound⟩
  simp only [List.map_cons, List.map_nil, hentries, hagain]
  rfl

end Workspace

end PageShell
