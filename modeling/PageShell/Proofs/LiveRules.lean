import Mathlib.Data.List.Nodup
import PageShell.Proofs.Directories
import PageShell.Proofs.Issues

/-!
# Live rules

A rule is live if it decides about some path. Rules without issues are all live: each decides about
the files in the directory that its segment names. A rule that is reported as shadowed decides about
no path, so it can be deleted.

Results:

* `isMatch_file_iff`: in the path of a file in one directory, a name is matched exactly if it is the
  name of that directory.
* `find?_of_ruleIssues_eq_nil`: among rules without issues, a rule decides about the files in its
  directory.
* `classify_unshadowed`: rules that are reported as shadowed can be deleted.
* `issues_tell_live_rules`: what the issues of rules say about classification.
-/

namespace PageShell

open Config (IsDirectoryName isShadowed isShadowed_iff ruleIssues ruleIssues_eq_nil_iff ruleIssuesOf
  ruleIssuesOf_prefix)

/-! ## Matching one directory -/

/-- A file name, which has no separators. -/
structure IsFileName (name : String) : Prop where
  not_slash : '/' ∉ name.toList
  not_backslash : '\\' ∉ name.toList

namespace Rule

/-- The path of a file in one directory runs through that directory alone. -/
theorem directories_file {directory name : String} (hdirectory : IsDirectoryName directory)
    (hname : IsFileName name) :
    directories (directory ++ "/" ++ name) = [directory.toList] := by
  have hpiece : ∀ {t : Text}, '/' ∉ t → '\\' ∉ t →
      Text.fields (fun c => c == '/' || c == '\\') t = [t] := by
    intro t hs hb
    apply Text.fields_of_forall
    intro c hc
    rw [Bool.or_eq_false_iff, beq_eq_false_iff_ne, beq_eq_false_iff_ne]
    exact ⟨fun heq => hs (heq ▸ hc), fun heq => hb (heq ▸ hc)⟩
  have htext : (directory ++ "/" ++ name).toList = directory.toList ++ '/' :: name.toList := by
    simp
  rw [directories, htext, Text.fields_append_cons (by simp),
    hpiece hdirectory.not_slash hdirectory.not_backslash,
    hpiece hname.not_slash hname.not_backslash, List.dropLast_concat]

/-- A rule whose segment can be the name of a directory matches a file in a directory if the segment
is the name of that directory. -/
theorem isMatch_file_iff {rule : Rule} {directory name : String}
    (hrule : IsDirectoryName rule.segment) (hdirectory : IsDirectoryName directory)
    (hname : IsFileName name) :
    rule.isMatch (directory ++ "/" ++ name) = true ↔ rule.segment = directory := by
  have hne : rule.segment ≠ "" := by
    intro h
    exact hrule.not_blank (by rw [h]; rfl)
  rw [isMatch_iff_mem hrule.not_slash, directories_file hdirectory hname, List.mem_singleton,
    String.toList_inj]
  exact and_iff_right hne

end Rule

/-! ## Rules without issues -/

variable {rules before : List Rule} {rule : Rule} {name : String}

/-- **Among rules without issues, a rule decides about the files in its directory.** -/
theorem find?_of_ruleIssues_eq_nil (h : ruleIssues rules = []) (hrule : rule ∈ rules)
    (hname : IsFileName name) :
    rules.find? (·.isMatch (rule.segment ++ "/" ++ name)) = some rule := by
  obtain ⟨hnames, hnodup⟩ := ruleIssues_eq_nil_iff.1 h
  have hmatch : ∀ r ∈ rules, r.isMatch (rule.segment ++ "/" ++ name) = true ↔
      r.segment = rule.segment := fun r hr =>
    Rule.isMatch_file_iff (hnames r hr) (hnames rule hrule) hname
  have hsome : (rules.find? (·.isMatch (rule.segment ++ "/" ++ name))).isSome = true :=
    List.find?_isSome.2 ⟨rule, hrule, (hmatch rule hrule).2 rfl⟩
  obtain ⟨found, hfound⟩ := Option.isSome_iff_exists.1 hsome
  have hmem := List.mem_of_find?_eq_some hfound
  have hfits := List.find?_some hfound
  have hsegment := (hmatch found hmem).1 hfits
  rw [hfound, List.inj_on_of_nodup_map hnodup hmem hrule hsegment]

theorem classify_of_ruleIssues_eq_nil (h : ruleIssues rules = []) (hrule : rule ∈ rules)
    (hname : IsFileName name) (default : Category) :
    classify rules default (rule.segment ++ "/" ++ name) = rule.category := by
  rw [classify, find?_of_ruleIssues_eq_nil h hrule hname]
  rfl

/-! ## Shadowed rules -/

/-- The rules of a list without those that are reported as shadowed, behind some others. -/
def unshadowedBehind (before : List Rule) : List Rule → List Rule
  | [] => []
  | rule :: rules =>
    if isShadowed before rule then unshadowedBehind (before ++ [rule]) rules
    else rule :: unshadowedBehind (before ++ [rule]) rules

/-- The rules of a list without those that are reported as shadowed. -/
def unshadowed (rules : List Rule) : List Rule := unshadowedBehind [] rules

/-- A rule that is reported as shadowed matches nothing that the rules before it do not match. -/
theorem isMatch_eq_false_of_isShadowed {path : String} (h : isShadowed before rule = true)
    (hbefore : ∀ earlier ∈ before, earlier.isMatch path = false) : rule.isMatch path = false := by
  obtain ⟨-, earlier, hmem, hsegment⟩ := isShadowed_iff.1 h
  have hearlier := hbefore earlier hmem
  rw [Rule.isMatch, hsegment] at hearlier
  exact hearlier

theorem classify_unshadowedBehind {path : String} (default : Category)
    (hbefore : ∀ earlier ∈ before, earlier.isMatch path = false) :
    classify (unshadowedBehind before rules) default path = classify rules default path := by
  induction rules generalizing before with
  | nil => rfl
  | cons rule rules ih =>
    have hnext : rule.isMatch path = false →
        ∀ earlier ∈ before ++ [rule], earlier.isMatch path = false := by
      intro hrule earlier hmem
      rcases List.mem_append.1 hmem with hmem | hmem
      · exact hbefore earlier hmem
      · rw [List.mem_singleton.1 hmem, hrule]
    rw [unshadowedBehind, classify_cons]
    split
    · rename_i hshadowed
      have hrule := isMatch_eq_false_of_isShadowed hshadowed hbefore
      rw [ih (hnext hrule), hrule, if_neg Bool.false_ne_true]
    · rw [classify_cons]
      cases hrule : rule.isMatch path with
      | true => rfl
      | false => rw [ih (hnext hrule)]

/-- **Rules that are reported as shadowed can be deleted.** -/
theorem classify_unshadowed (rules : List Rule) (default : Category) (path : String) :
    classify (unshadowed rules) default path = classify rules default path :=
  classify_unshadowedBehind default (by simp)

/-! ## What the issues say -/

/-- **The issues of rules tell which rules are live.** There are none if the segments are the names
of different directories, and then every rule decides about all files in its directory. Whatever the
rules are, those that are reported as shadowed can be deleted without another category for any path;
what is reported of a rule stands in the report behind what is reported of the rules before it. -/
theorem issues_tell_live_rules (rules : List Rule) :
    (ruleIssues rules = [] ↔
      (∀ rule ∈ rules, IsDirectoryName rule.segment) ∧ (rules.map Rule.segment).Nodup) ∧
    (ruleIssues rules = [] → ∀ rule ∈ rules, ∀ name, IsFileName name →
      let path := rule.segment ++ "/" ++ name
      rules.find? (·.isMatch path) = some rule ∧
        ∀ default, classify rules default path = rule.category) ∧
    (∀ default path, classify (unshadowed rules) default path = classify rules default path) ∧
    ∀ before rule rest, rules = before ++ rule :: rest →
      ruleIssues before ++ ruleIssuesOf before rule <+: ruleIssues rules := by
  refine ⟨ruleIssues_eq_nil_iff, ?_, classify_unshadowed rules, ?_⟩
  · intro h rule hrule name hname
    exact ⟨find?_of_ruleIssues_eq_nil h hrule hname,
      classify_of_ruleIssues_eq_nil h hrule hname⟩
  · rintro before rule rest rfl
    exact ruleIssuesOf_prefix before rule rest

end PageShell
