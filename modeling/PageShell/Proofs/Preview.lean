import PageShell.Proofs.Effects
import PageShell.Proofs.Outcomes
import PageShell.Proofs.RunEffect

/-!
# What a preview tells

A preview, a visit and a run go their own ways to a file, but they tell the same about it. What a
preview shows of a page is a text, a status and perhaps the offset of an anchor, and that is all
that the entry of a visit is made from.

Results:

* `result_shown`: the result of a page follows from what is shown of it.
* `readText_visit`: after a visit that writes, the path of a file reads as the text that was shown.
* `entries_run`: the entries of a run are those of visits.
* `preview_tells`: what a preview tells about a visit.
-/

namespace PageShell

namespace Runner

/-- What is shown of a page. -/
structure Shown where
  text : Text
  status : Status
  anchor : Option Nat
  deriving DecidableEq, Repr

/-- What a preview shows of a page. -/
def Page.shown (p : Page) : Shown := ⟨p.after, p.outcome.status, p.outcome.anchor?⟩

/-- The result of a page by what is shown of it. Another offset stands in for an anchor that is
missing. -/
def Shown.result (shown : Shown) (missing : Nat) : Except FileError Deed :=
  match shown.status with
  | .wrapped => .ok .wrapped
  | .alreadyWrapped => .ok .alreadyWrapped
  | .noRegion => .error .noRegion
  | .unbalanced => .error (.unbalanced (shown.anchor.getD missing))

variable {r : Runner} {tree : FileTree} {file : String} {p : Page}

/-! ## Results -/

/-- **The result of a page follows from what is shown of it**, whatever stands in for an anchor that
is missing: none is. -/
theorem result_shown (p : Page) (missing : Nat) :
    result p.outcome = p.shown.result missing := by
  obtain ⟨location, before, category, outcome⟩ := p
  cases outcome with
  | wrapped | alreadyWrapped | noRegion | unbalanced => rfl

/-- Where delimiters are not balanced, there is an anchor. -/
theorem exists_anchor (h : p.shown.status = .unbalanced) : ∃ a, p.shown.anchor = some a := by
  obtain ⟨location, before, category, outcome⟩ := p
  cases outcome with
  | unbalanced a => exact ⟨a, rfl⟩
  | wrapped | alreadyWrapped | noRegion => cases h

theorem entry_visit (hp : r.preview tree file = .ok p) (dryRun : Bool) (missing : Nat) :
    (r.visit dryRun tree file).entry =
      ⟨file, some (r.config.classify file), p.shown.anchor, p.shown.result missing⟩ := by
  have hcategory : p.category = r.config.classify file := (preview_eq_ok_iff.1 hp).2.2.1
  change entry file (r.preview tree file) = _
  rw [hp, entry, hcategory, result_shown p missing]
  rfl

/-- What a visit reports where delimiters are not balanced is the anchor that is shown. -/
theorem result_visit_of_unbalanced (hp : r.preview tree file = .ok p)
    (hstatus : p.shown.status = .unbalanced) :
    ∃ a, p.shown.anchor = some a ∧
      ∀ dryRun, (r.visit dryRun tree file).entry.result = .error (.unbalanced a) := by
  obtain ⟨a, hanchor⟩ := exists_anchor hstatus
  refine ⟨a, hanchor, fun dryRun => ?_⟩
  rw [entry_visit hp dryRun 0]
  simp only [Shown.result, hstatus, hanchor, Option.getD_some]

/-! ## Texts -/

/-- **A visit that writes leaves the text that is shown** at the location of the page, whatever its
status is. -/
theorem textAt_visit (hp : r.preview tree file = .ok p) :
    (r.visit false tree file).tree.textAt p.location = .ok p.shown.text := by
  obtain ⟨hlocate, htext, hcategory, houtcome⟩ := preview_eq_ok_iff.1 hp
  obtain ⟨mode, hitem⟩ := item?_of_textAt htext
  apply FileTree.textAt_of_item?
  rw [visit_item?_of_text hlocate hitem, ← hcategory, ← houtcome]
  rfl

/-- Every path to the page leads there after the visit too, and reads as what is shown. -/
theorem readText_visit (hp : r.preview tree file = .ok p) {dir : Location} {path : String}
    (hpath : tree.locate dir path = .ok p.location) :
    (r.visit false tree file).tree.readText dir path = .ok p.shown.text := by
  have hshape := r.visit_sameShape tree file
  rw [FileTree.readText, ← hshape.locate_eq, hpath]
  exact textAt_visit hp

/-- A visit changes no other item. -/
theorem item?_visit_of_ne (hp : r.preview tree file = .ok p) {loc : Location}
    (hne : loc ≠ p.location) : (r.visit false tree file).tree.item? loc = tree.item? loc := by
  apply visit_item?_of_not_leadsTo
  intro hleads
  exact hne (hleads.unique (leadsTo_of_preview hp))

/-! ## Runs -/

/-- **The entries of a run are those of visits**, each in the tree that those before it leave. -/
theorem entries_run {before rest : List String} (h : r.config.files = before ++ file :: rest)
    (dryRun : Bool) (tree : FileTree) :
    (r.run dryRun tree).report.entries[before.length]? =
      some (r.visit dryRun (r.tour dryRun tree before).tree file).entry := by
  change (r.tour dryRun tree r.config.files).entries[before.length]? = _
  rw [h]
  clear h
  induction before generalizing tree with
  | nil => rfl
  | cons first before ih => exact ih _

/-! ## The story -/

/-- **Preview, visit and run tell the same.** A preview leaves the tree as it is. If it fails, a
visit has the same error as its result, has no category and no anchor, and writes nothing. If it
shows a page, the entry of a visit is made from that, with an anchor if one is called for, and a
visit that writes leaves the text that was shown under every path to the page, and all else as it
was. The entries of a run are those of visits. -/
theorem preview_tells (r : Runner) (tree : FileTree) (file : String) :
    (Work.preview .nothing r file).run tree = .ok (r.preview tree file) tree ∧
      (∀ e, r.preview tree file = .error e → ∀ dryRun,
        (r.visit dryRun tree file).entry = ⟨file, none, none, .error e⟩ ∧
          (r.visit dryRun tree file).tree = tree) ∧
      (∀ p, r.preview tree file = .ok p →
        (∀ dryRun missing, (r.visit dryRun tree file).entry =
          ⟨file, some (r.config.classify file), p.shown.anchor, p.shown.result missing⟩) ∧
          (p.shown.status = .unbalanced → ∃ a, p.shown.anchor = some a ∧
            ∀ dryRun, (r.visit dryRun tree file).entry.result = .error (.unbalanced a)) ∧
          (r.visit true tree file).tree = tree ∧
          let after := (r.visit false tree file).tree
          after.readText r.workspace.dir (r.workspace.resolve file) = .ok p.shown.text ∧
            (∀ dir path, tree.locate dir path = .ok p.location →
              after.readText dir path = .ok p.shown.text) ∧
            ∀ loc ≠ p.location, after.item? loc = tree.item? loc) ∧
      ∀ dryRun before rest, r.config.files = before ++ file :: rest →
        (r.run dryRun tree).report.entries[before.length]? =
          some (r.visit dryRun (r.tour dryRun tree before).tree file).entry := by
  refine ⟨?_, ?_, ?_, ?_⟩
  · exact Work.run_of_result (Work.result_preview r file)
  · intro e he dryRun
    have hentry : (r.visit dryRun tree file).entry = entry file (.error e) := by rw [visit, he]
    have htree : (r.visit dryRun tree file).tree = tree := by
      rw [visit, he]
      exact ite_self tree
    exact ⟨hentry, htree⟩
  · intro p hp
    refine ⟨entry_visit hp, result_visit_of_unbalanced hp, rfl, ?_, ?_, ?_⟩
    · exact readText_visit hp (leadsTo_of_preview hp)
    · exact fun dir path hpath => readText_visit hp hpath
    · exact fun loc hne => item?_visit_of_ne hp hne
  · exact fun dryRun before rest h => entries_run h dryRun tree

end Runner

end PageShell
