import PageShell.Config.Issues

/-!
# What issues tell

The files and the rules of a configuration are gone through in order, and what has been seen on the
way decides about duplicates. Here the issues are told from the configuration alone.

Results:

* `filter_isAboutFile`: the issues about files are those of the list of files.
* `duplicateFile_mem_issues_iff`: exactly the files that are listed more than once are reported as
  duplicates.
* `ruleIssues_append`: the issues of a list of rules begin with those of the rules in front.
* `ruleIssues_eq_nil_iff`: rules have no issues if their segments are the names of different
  directories.
* `isShadowed_iff`: a rule is reported as shadowed if a rule before it has the same segment.
-/

namespace PageShell

/-- Whether a problem is one of the list of files. -/
def Issue.isAboutFile : Issue → Bool
  | noFiles | duplicateFile _ | missingFile _ => true
  | _ => false

namespace Config

/-! ## Files -/

section Files

variable {isPresent : String → Bool} {file : String} {files seen : List String}

/-- An issue that is reported if something is the case. -/
theorem mem_reportedIf {cond : Prop} [Decidable cond] {issue reported : Issue} :
    issue ∈ (if cond then [reported] else []) ↔ cond ∧ issue = reported := by
  rw [List.mem_ite_nil_right, List.mem_singleton]

/-- An issue that is reported unless something is the case. -/
theorem mem_reportedUnless {cond : Prop} [Decidable cond] {issue reported : Issue} :
    issue ∈ (if cond then [] else [reported]) ↔ ¬cond ∧ issue = reported := by
  rw [List.mem_ite_nil_left, List.mem_singleton]

theorem isAboutFile_of_mem_fileIssuesBehind :
    ∀ issue ∈ fileIssuesBehind isPresent seen files, issue.isAboutFile = true := by
  induction files generalizing seen with
  | nil => simp [fileIssuesBehind]
  | cons f files ih =>
    intro issue h
    rw [fileIssuesBehind, List.mem_append, List.mem_append, mem_reportedIf,
      mem_reportedUnless] at h
    rcases h with (⟨-, rfl⟩ | ⟨-, rfl⟩) | h
    · rfl
    · rfl
    · exact ih issue h

theorem isAboutFile_of_mem_fileIssues :
    ∀ issue ∈ fileIssues isPresent files, issue.isAboutFile = true := by
  intro issue h
  rw [fileIssues, List.mem_append, mem_reportedIf] at h
  rcases h with ⟨-, rfl⟩ | h
  · rfl
  · exact isAboutFile_of_mem_fileIssuesBehind issue h

theorem not_isAboutFile_of_mem_ruleIssuesBehind {rules : List Rule} :
    ∀ issue ∈ ruleIssuesBehind seen rules, ¬issue.isAboutFile = true := by
  induction rules generalizing seen with
  | nil => simp [ruleIssuesBehind]
  | cons rule rules ih =>
    intro issue h
    unfold ruleIssuesBehind at h
    split at h
    · rcases List.mem_cons.1 h with rfl | h
      · exact Bool.false_ne_true
      · exact ih issue h
    · rw [List.mem_append, List.mem_append, mem_reportedIf, mem_reportedIf] at h
      rcases h with (⟨-, rfl⟩ | ⟨-, rfl⟩) | h
      · exact Bool.false_ne_true
      · exact Bool.false_ne_true
      · exact ih issue h

theorem not_isAboutFile_of_mem_anchorIssues [PatternReader] {a : AnchorSettings} :
    ∀ issue ∈ anchorIssues a, ¬issue.isAboutFile = true := by
  intro issue h
  rw [anchorIssues, patternIssues, List.mem_append, mem_reportedIf] at h
  rcases h with h | ⟨-, rfl⟩
  · split at h
    · cases h
    · obtain rfl := List.mem_singleton.1 h
      exact Bool.false_ne_true
  · exact Bool.false_ne_true

theorem not_isAboutFile_of_mem_wrapperIssues {w : Wrapper} :
    ∀ issue ∈ wrapperIssues w, ¬issue.isAboutFile = true := by
  intro issue h
  rw [wrapperIssues, List.mem_append, List.mem_append, List.mem_append, mem_reportedUnless,
    mem_reportedUnless, mem_reportedIf, List.mem_map] at h
  rcases h with ((⟨-, rfl⟩ | ⟨-, rfl⟩) | ⟨name, -, rfl⟩) | ⟨-, rfl⟩
  · exact Bool.false_ne_true
  · exact Bool.false_ne_true
  · exact Bool.false_ne_true
  · exact Bool.false_ne_true

/-- **The issues about files** are those of the list of files, in the same order. -/
theorem filter_isAboutFile [PatternReader] (isPresent : String → Bool) (c : Config) :
    (c.issues isPresent).filter Issue.isAboutFile = fileIssues isPresent c.files := by
  have hversion : (if c.version = supportedVersion then []
      else [Issue.unsupportedVersion c.version]).filter Issue.isAboutFile = [] := by
    split <;> rfl
  simp only [issues, ruleIssues, List.filter_append, hversion,
    List.filter_eq_self.2 isAboutFile_of_mem_fileIssues,
    List.filter_eq_nil_iff.2 not_isAboutFile_of_mem_ruleIssuesBehind,
    List.filter_eq_nil_iff.2 not_isAboutFile_of_mem_anchorIssues,
    List.filter_eq_nil_iff.2 not_isAboutFile_of_mem_wrapperIssues, List.nil_append, List.append_nil]

theorem duplicateFile_mem_fileIssuesBehind_iff :
    .duplicateFile file ∈ fileIssuesBehind isPresent seen files ↔
      file ∈ files ∧ (file ∈ seen ∨ 1 < files.count file) := by
  induction files generalizing seen with
  | nil => simp [fileIssuesBehind]
  | cons f files ih =>
    rw [fileIssuesBehind, List.mem_append, List.mem_append, mem_reportedIf, mem_reportedUnless, ih]
    by_cases heq : file = f
    · subst heq
      have hcount : file ∈ files ↔ 0 < files.count file := List.count_pos_iff.symm
      simp only [List.count_cons_self, List.mem_cons, reduceCtorEq, and_false, or_false, and_true]
      grind
    · simp [heq, List.count_cons_of_ne (Ne.symm heq)]

/-- **A file is reported as a duplicate if it is listed more than once.** -/
theorem duplicateFile_mem_issues_iff [PatternReader] {c : Config} :
    .duplicateFile file ∈ c.issues isPresent ↔ 1 < c.files.count file := by
  have hfilter : Issue.duplicateFile file ∈ c.issues isPresent ↔
      Issue.duplicateFile file ∈ fileIssues isPresent c.files := by
    rw [← filter_isAboutFile, List.mem_filter]
    simp [Issue.isAboutFile]
  have hmem : 1 < c.files.count file → file ∈ c.files := fun h =>
    List.count_pos_iff.1 (by omega)
  rw [hfilter, fileIssues, List.mem_append, mem_reportedIf, duplicateFile_mem_fileIssuesBehind_iff]
  simp only [reduceCtorEq, and_false, List.not_mem_nil, false_or]
  exact ⟨And.right, fun h => ⟨hmem h, h⟩⟩

end Files

/-! ## Rules -/

section Rules

variable {seen : List String} {rule : Rule} {before rules : List Rule}

/-- A segment that can be the name of a directory: it is not blank and has no separators. -/
structure IsDirectoryName (segment : String) : Prop where
  not_blank : Text.trim segment.toList ≠ []
  not_slash : '/' ∉ segment.toList
  not_backslash : '\\' ∉ segment.toList

theorem hasSeparator_eq_false_iff {segment : String} :
    hasSeparator segment = false ↔ '/' ∉ segment.toList ∧ '\\' ∉ segment.toList := by
  simp only [hasSeparator, List.any_eq_false, Bool.or_eq_true, beq_iff_eq, not_or]
  constructor
  · intro h
    exact ⟨fun hm => (h '/' hm).1 rfl, fun hm => (h '\\' hm).2 rfl⟩
  · rintro ⟨hs, hb⟩ c hc
    exact ⟨fun heq => hs (heq ▸ hc), fun heq => hb (heq ▸ hc)⟩

/-- The segments that have been seen behind some rules. Blank ones are passed over. -/
def seenBehind (seen : List String) : List Rule → List String
  | [] => seen
  | rule :: rules =>
    if Text.trim rule.segment.toList = [] then seenBehind seen rules
    else seenBehind (rule.segment :: seen) rules

theorem mem_seenBehind_iff {segment : String} :
    segment ∈ seenBehind seen rules ↔ segment ∈ seen ∨
      Text.trim segment.toList ≠ [] ∧ segment ∈ rules.map Rule.segment := by
  induction rules generalizing seen with
  | nil => simp [seenBehind]
  | cons rule rules ih =>
    unfold seenBehind
    split
    · rename_i hblank
      rw [ih]
      grind
    · rename_i hblank
      rw [ih]
      grind

theorem ruleIssuesBehind_append (seen : List String) (before rules : List Rule) :
    ruleIssuesBehind seen (before ++ rules) =
      ruleIssuesBehind seen before ++ ruleIssuesBehind (seenBehind seen before) rules := by
  induction before generalizing seen with
  | nil => rfl
  | cons rule before ih =>
    rw [List.cons_append, ruleIssuesBehind, ruleIssuesBehind, seenBehind]
    split
    · rw [ih, List.cons_append]
    · rw [ih, List.append_assoc _ _ (ruleIssuesBehind _ rules)]

/-- **The issues of rules begin with those of the rules in front.** -/
theorem ruleIssues_append (before rules : List Rule) :
    ruleIssues (before ++ rules) =
      ruleIssues before ++ ruleIssuesBehind (seenBehind [] before) rules :=
  ruleIssuesBehind_append [] before rules

theorem ruleIssuesBehind_eq_nil_iff :
    ruleIssuesBehind seen rules = [] ↔
      (∀ rule ∈ rules, IsDirectoryName rule.segment) ∧ (rules.map Rule.segment).Nodup ∧
        ∀ rule ∈ rules, rule.segment ∉ seen := by
  induction rules generalizing seen with
  | nil => simp [ruleIssuesBehind]
  | cons rule rules ih =>
    unfold ruleIssuesBehind
    split
    · rename_i hblank
      constructor
      · intro h
        cases h
      · rintro ⟨h, -⟩
        exact absurd hblank (h rule List.mem_cons_self).not_blank
    · rename_i hblank
      have hname : IsDirectoryName rule.segment ↔ hasSeparator rule.segment = false := by
        rw [hasSeparator_eq_false_iff]
        exact ⟨fun h => ⟨h.not_slash, h.not_backslash⟩, fun h => ⟨hblank, h.1, h.2⟩⟩
      simp only [List.append_eq_nil_iff, ih, ite_eq_right_iff, List.cons_ne_nil, imp_false,
        Bool.not_eq_true, List.map_cons, List.nodup_cons, List.mem_cons, not_or, List.mem_map,
        not_exists, not_and]
      grind

/-- **Rules have no issues** if their segments are the names of different directories. -/
theorem ruleIssues_eq_nil_iff :
    ruleIssues rules = [] ↔
      (∀ rule ∈ rules, IsDirectoryName rule.segment) ∧ (rules.map Rule.segment).Nodup := by
  rw [ruleIssues, ruleIssuesBehind_eq_nil_iff]
  simp

/-- The issues that a rule adds to those of the rules before it. -/
def ruleIssuesOf (before : List Rule) (rule : Rule) : List Issue :=
  (ruleIssues (before ++ [rule])).drop (ruleIssues before).length

theorem ruleIssuesOf_eq (before : List Rule) (rule : Rule) :
    ruleIssuesOf before rule = ruleIssuesBehind (seenBehind [] before) [rule] := by
  rw [ruleIssuesOf, ruleIssues_append, List.drop_left]

/-- What is reported of a rule stands behind what is reported of the rules before it. -/
theorem ruleIssuesOf_prefix (before : List Rule) (rule : Rule) (rest : List Rule) :
    ruleIssues before ++ ruleIssuesOf before rule <+: ruleIssues (before ++ rule :: rest) := by
  have hsplit : ruleIssuesBehind (seenBehind [] before) (rule :: rest) =
      ruleIssuesOf before rule ++
        ruleIssuesBehind (seenBehind (seenBehind [] before) [rule]) rest := by
    rw [ruleIssuesOf_eq, ← ruleIssuesBehind_append, List.singleton_append]
  rw [ruleIssues_append, hsplit, ← List.append_assoc]
  exact List.prefix_append _ _

/-- Whether a rule is reported as shadowed by one of the rules before it. -/
def isShadowed (before : List Rule) (rule : Rule) : Bool :=
  .shadowedSegment rule.segment rule.category ∈ ruleIssuesOf before rule

/-- **A rule is reported as shadowed** if a rule before it has the same segment, unless that is
blank. -/
theorem isShadowed_iff :
    isShadowed before rule = true ↔
      Text.trim rule.segment.toList ≠ [] ∧ ∃ earlier ∈ before, earlier.segment = rule.segment := by
  rw [isShadowed, decide_eq_true_eq, ruleIssuesOf_eq, ruleIssuesBehind]
  split
  · rename_i hblank
    simp [hblank, ruleIssuesBehind]
  · rename_i hblank
    have hseen : rule.segment ∈ seenBehind [] before ↔
        ∃ earlier ∈ before, earlier.segment = rule.segment := by
      rw [mem_seenBehind_iff, List.mem_map]
      simp [hblank]
    rw [List.mem_append, List.mem_append, mem_reportedIf, mem_reportedIf, hseen]
    simp [hblank, ruleIssuesBehind]

end Rules

end Config

end PageShell
