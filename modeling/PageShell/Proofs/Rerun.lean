import PageShell.Proofs.FileShape
import PageShell.Run

/-!
# Running again

A page that has been visited is settled: it has the marker, or it cannot be wrapped. No visit
changes what is at the location of a settled page, whichever path leads there, and no visit
changes where a path leads. So a second run finds every page as the first one has left it.

Results:

* `visit_cases`: what a visit can do to the file tree.
* `settled_visit`: a visit settles the page that it is for.
* `tour_item?_of_settled`: a settled page stays as it is.
* `entries_again`: what a second look at the listed files finds.
* `tree_and_entries_again`: what a second run gives.
* `run_again`: a second run changes nothing and wraps nothing.
-/

namespace PageShell

/-! ## Second looks -/

namespace Wrapping

theorem isWrapped_wrap (w : Wrapping) (c c' : Category) (t : Text) :
    (w.wrap c t).isWrapped = (w.wrap c' t).isWrapped := by
  by_cases hm : w.wrapper.marker.isPresent t = true
  · rw [wrap_of_isPresent hm, wrap_of_isPresent hm]
  · simp only [wrap, if_neg hm]
    cases w.locator.locate t with
    | error e => rfl
    | ok region => simp only [Outcome.isWrapped]

end Wrapping

/-- The entry that a second run has for a file, given the one of the first run. -/
def Entry.again (e : Entry) : Entry :=
  if e.isWrapped then ⟨e.path, e.category, none, .ok .alreadyWrapped⟩ else e

theorem Entry.isWrapped_iff (e : Entry) : e.isWrapped = true ↔ e.result = .ok .wrapped := by
  unfold isWrapped
  split
  · rename_i h
    rw [h]
    exact ⟨fun _ => rfl, fun _ => rfl⟩
  · rename_i h
    constructor
    · simp
    · intro hresult
      exact absurd hresult h

theorem Entry.isWrapped_again (e : Entry) : e.again.isWrapped = false := by
  unfold again
  split
  · rfl
  · rename_i h
    exact Bool.eq_false_iff.2 h

namespace Runner

/-- A page when it is looked at again after it has been dealt with. -/
def Page.again (p : Page) : Page :=
  match p.outcome with
  | .wrapped text _ => ⟨p.location, text, p.category, .alreadyWrapped⟩
  | _ => p

theorem Page.again_of_wrapped {p : Page} {u : Text} {a : Nat} (h : p.outcome = .wrapped u a) :
    p.again = ⟨p.location, u, p.category, .alreadyWrapped⟩ := by
  simp only [again, h]

theorem Page.again_of_not_wrapped {p : Page} (h : p.outcome.isWrapped = false) : p.again = p := by
  unfold again
  split
  · rename_i hu
    rw [hu, Outcome.isWrapped] at h
    simp at h
  · rfl

theorem entry_again (file : String) (page : Except FileError Page) :
    entry file (page.map Page.again) = (entry file page).again := by
  rcases page with e | ⟨location, before, category, outcome⟩
  · rfl
  · cases outcome with
    | wrapped | alreadyWrapped | noRegion | unbalanced => rfl

theorem isWrapped_entry (file : String) (p : Page) :
    (entry file (.ok p)).isWrapped = p.outcome.isWrapped := by
  obtain ⟨location, before, category, outcome⟩ := p
  cases outcome with
  | wrapped | alreadyWrapped | noRegion | unbalanced => rfl

variable {r : Runner} {tree tree' : FileTree} {file : String} {loc : Location}

/-! ## One visit -/

/-- A listed file is previewed if its path leads to a file that holds a text. -/
theorem preview_eq_ok_iff {p : Page} :
    r.preview tree file = .ok p ↔
      tree.locate r.workspace.dir (r.workspace.resolve file) = .ok p.location ∧
        tree.textAt p.location = .ok p.before ∧ p.category = r.config.classify file ∧
          p.outcome = r.wrapping.wrap p.category p.before := by
  unfold preview
  constructor
  · intro h
    simp only at h
    split at h
    · simp at h
    · rename_i hloc
      split at h
      · simp at h
      · rename_i htext
        cases h
        exact ⟨hloc, htext, rfl, rfl⟩
  · obtain ⟨location, before, category, outcome⟩ := p
    rintro ⟨hloc, htext, hcategory, houtcome⟩
    simp only at hloc htext hcategory houtcome
    simp only [hloc, htext, houtcome, hcategory]

/-- A preview depends on where the path of the file leads, and on the text there. -/
theorem preview_congr
    (hplace : tree'.locate r.workspace.dir (r.workspace.resolve file) =
      tree.locate r.workspace.dir (r.workspace.resolve file))
    (htext : ∀ loc, tree.locate r.workspace.dir (r.workspace.resolve file) = .ok loc →
      tree'.textAt loc = tree.textAt loc) : r.preview tree' file = r.preview tree file := by
  simp only [preview, hplace]
  cases hloc : tree.locate r.workspace.dir (r.workspace.resolve file) with
  | error fault => rfl
  | ok loc => simp only [htext loc hloc]

/-- A file that is not there is missing. -/
theorem preview_of_absent
    (h : ¬tree.isPresent r.workspace.dir (r.workspace.resolve file) = true) :
    r.preview tree file = .error (.missing (r.workspace.resolve file)) := by
  unfold FileTree.isPresent at h
  cases hlocate : tree.locate r.workspace.dir (r.workspace.resolve file) with
  | error fault => simp only [preview, hlocate]
  | ok loc =>
    rw [hlocate] at h
    exact absurd rfl h

/-- **What a visit can do:** nothing, or give the page of the file its new text. -/
theorem visit_cases (r : Runner) (tree : FileTree) (file : String) :
    ((r.visit false tree file).entry.isWrapped = false ∧ (r.visit false tree file).tree = tree) ∨
    ∃ p u a, r.preview tree file = .ok p ∧ p.outcome = .wrapped u a ∧
      (r.visit false tree file).tree = tree.putText p.location u := by
  have htree : (r.visit false tree file).tree = commit tree (r.preview tree file) := rfl
  have hentry : (r.visit false tree file).entry = entry file (r.preview tree file) := rfl
  rw [htree, hentry]
  cases r.preview tree file with
  | error e => exact .inl ⟨rfl, rfl⟩
  | ok p =>
    obtain ⟨location, before, category, outcome⟩ := p
    cases outcome with
    | wrapped u a => exact .inr ⟨_, u, a, rfl, rfl, rfl⟩
    | alreadyWrapped | noRegion | unbalanced => exact .inl ⟨rfl, rfl⟩

theorem visit_sameShape (r : Runner) (tree : FileTree) (file : String) :
    tree.SameShape (r.visit false tree file).tree := by
  rcases r.visit_cases tree file with ⟨-, h⟩ | ⟨p, u, -, -, -, h⟩
  · rw [h]
    exact .refl tree
  · rw [h]
    exact tree.sameShape_putText p.location u

/-- A location that no visit writes to: what is there is not wrapped, for any category. -/
def Settled (r : Runner) (tree : FileTree) (loc : Location) : Prop :=
  ∀ t, tree.textAt loc = .ok t → ∀ c, (r.wrapping.wrap c t).isWrapped = false

theorem textAt_eq_of_item? (h : tree'.item? loc = tree.item? loc) :
    tree'.textAt loc = tree.textAt loc := by
  unfold FileTree.textAt
  rw [h]

theorem item?_of_textAt {t : Text} (h : tree.textAt loc = .ok t) :
    ∃ mode, tree.item? loc = some (.file (.text t) mode) := by
  unfold FileTree.textAt at h
  split at h <;> cases h
  rename_i mode hitem
  exact ⟨mode, hitem⟩

theorem Settled.of_item? (hs : r.Settled tree loc) (h : tree'.item? loc = tree.item? loc) :
    r.Settled tree' loc := by
  intro t ht
  rw [textAt_eq_of_item? h] at ht
  exact hs t ht

theorem visit_item?_of_settled (hs : r.Settled tree loc) (file : String) :
    (r.visit false tree file).tree.item? loc = tree.item? loc := by
  rcases r.visit_cases tree file with ⟨-, h⟩ | ⟨p, u, a, hp, hu, h⟩
  · rw [h]
  · obtain ⟨-, hbefore, -, houtcome⟩ := preview_eq_ok_iff.1 hp
    -- the visit wraps the page it is for, so that page is elsewhere
    have hne : loc ≠ p.location := by
      rintro rfl
      have hquiet := hs p.before hbefore p.category
      rw [← houtcome, hu] at hquiet
      simp [Outcome.isWrapped] at hquiet
    rw [h, FileTree.item?_putText_of_ne tree hne]

/-- **A visit settles the page that it is for.** -/
theorem settled_visit
    (hloc : tree.locate r.workspace.dir (r.workspace.resolve file) = .ok loc) :
    r.Settled (r.visit false tree file).tree loc := by
  rcases r.visit_cases tree file with ⟨hentry, h⟩ | ⟨p, u, a, hp, hu, h⟩
  · rw [h]
    intro t ht c
    have hp : r.preview tree file = .ok ⟨loc, t, r.config.classify file,
        r.wrapping.wrap (r.config.classify file) t⟩ :=
      preview_eq_ok_iff.2 ⟨hloc, ht, rfl, rfl⟩
    rw [visit, hp, isWrapped_entry] at hentry
    rw [Wrapping.isWrapped_wrap _ c (r.config.classify file), hentry]
  · obtain ⟨hplace, hbefore, -, houtcome⟩ := preview_eq_ok_iff.1 hp
    rw [hloc] at hplace
    cases hplace
    intro t ht c
    obtain ⟨mode, hfile⟩ := item?_of_textAt hbefore
    rw [h, FileTree.textAt_putText hfile] at ht
    cases ht
    rw [Wrapping.wrap_of_wrapped (houtcome.symm.trans hu) rfl]
    rfl

/-- A visit finds a page again as it was, or wrapped if it has wrapped it. -/
theorem preview_again (hshape : tree.SameShape tree')
    (hitem : ∀ loc, tree.locate r.workspace.dir (r.workspace.resolve file) = .ok loc →
      tree'.item? loc = (r.visit false tree file).tree.item? loc) :
    r.preview tree' file = (r.preview tree file).map Page.again := by
  have hplace := hshape.locate_eq r.workspace.dir (r.workspace.resolve file)
  rcases r.visit_cases tree file with ⟨hentry, h⟩ | ⟨p, u, a, hp, hu, h⟩
  · rw [h] at hitem
    rw [preview_congr hplace.symm fun loc hloc => textAt_eq_of_item? (hitem loc hloc)]
    cases hp : r.preview tree file with
    | error e => rfl
    | ok p =>
      rw [visit, hp, isWrapped_entry] at hentry
      rw [Except.map, Page.again_of_not_wrapped hentry]
  · obtain ⟨hloc, hbefore, hcategory, houtcome⟩ := preview_eq_ok_iff.1 hp
    obtain ⟨mode, hfile⟩ := item?_of_textAt hbefore
    have htext := textAt_eq_of_item? (hitem p.location hloc)
    rw [h, FileTree.textAt_putText hfile] at htext
    rw [hp, Except.map, Page.again_of_wrapped hu, preview_eq_ok_iff, ← hplace]
    exact ⟨hloc, htext, hcategory, (Wrapping.wrap_of_wrapped (houtcome.symm.trans hu) rfl _).symm⟩

/-! ## All visits -/

theorem tour_sameShape (r : Runner) (tree : FileTree) (files : List String) :
    tree.SameShape (r.tour false tree files).tree := by
  induction files generalizing tree with
  | nil => exact .refl tree
  | cons file files ih => exact (r.visit_sameShape tree file).trans (ih _)

/-- **A settled page stays as it is**, whatever files are visited. -/
theorem tour_item?_of_settled (hs : r.Settled tree loc) (files : List String) :
    (r.tour false tree files).tree.item? loc = tree.item? loc := by
  induction files generalizing tree with
  | nil => rfl
  | cons file files ih =>
    have hvisit := visit_item?_of_settled hs file
    rw [tour, ih (hs.of_item? hvisit), hvisit]

/-- A second look at the listed files, when all have been visited. -/
theorem entries_again (r : Runner) (tree : FileTree) (files : List String) :
    (files.map fun file => entry file (r.preview (r.tour false tree files).tree file)) =
      (r.tour false tree files).entries.map Entry.again := by
  induction files generalizing tree with
  | nil => rfl
  | cons file files ih =>
    have hshape := (r.visit_sameShape tree file).trans (r.tour_sameShape _ files)
    have hpreview := preview_again hshape fun loc hloc =>
      tour_item?_of_settled (settled_visit hloc) files
    rw [tour, List.map_cons, List.map_cons, ih, hpreview, entry_again]
    rfl

/-- Visits that wrap nothing leave the tree as it is, and find all files in it. -/
theorem tour_of_quiet {files : List String}
    (h : ∀ file ∈ files, (entry file (r.preview tree file)).isWrapped = false) :
    (r.tour false tree files).tree = tree ∧
      (r.tour false tree files).entries =
        files.map fun file => entry file (r.preview tree file) := by
  induction files with
  | nil => exact ⟨rfl, rfl⟩
  | cons file files ih =>
    have hvisit : (r.visit false tree file).tree = tree := by
      rcases r.visit_cases tree file with ⟨-, htree⟩ | ⟨p, u, a, hp, hu, -⟩
      · exact htree
      · have hquiet := h file List.mem_cons_self
        rw [hp, isWrapped_entry, hu] at hquiet
        simp [Outcome.isWrapped] at hquiet
    obtain ⟨htree, hentries⟩ := ih fun file hfile => h file (List.mem_cons_of_mem _ hfile)
    rw [tour, hvisit, htree, hentries]
    exact ⟨rfl, rfl⟩

/-- A second run leaves the tree as the first one has, and its entries are those of the first one,
looked at again. -/
theorem tree_and_entries_again (r : Runner) (tree : FileTree) :
    (r.run false (r.run false tree).tree).tree = (r.run false tree).tree ∧
      (r.run false (r.run false tree).tree).report.entries =
        (r.run false tree).report.entries.map Entry.again := by
  have hagain := r.entries_again tree r.config.files
  have hquiet : ∀ file ∈ r.config.files,
      (entry file (r.preview (r.run false tree).tree file)).isWrapped = false := by
    intro file hfile
    have hmem := List.mem_map_of_mem
      (f := fun file => entry file (r.preview (r.run false tree).tree file)) hfile
    obtain ⟨e, -, he⟩ := List.mem_map.1 (hagain ▸ hmem)
    rw [← he, Entry.isWrapped_again]
  obtain ⟨htree, hentries⟩ := tour_of_quiet hquiet
  exact ⟨htree, hentries.trans hagain⟩

/-- **A second run changes nothing and wraps nothing.** It reports each wrapped file as already
wrapped, and each other file as the first run did, whichever of the listed paths lead to the same
file. -/
theorem run_again (r : Runner) (tree : FileTree) :
    let first := r.run false tree
    let second := r.run false first.tree
    second.tree = first.tree ∧
      second.report.entries.length = first.report.entries.length ∧
      second.report.wrapped = 0 ∧
      ∀ (i : Nat) (e : Entry), first.report.entries[i]? = some e →
        ∃ e', second.report.entries[i]? = some e' ∧
          (e.result = .ok .wrapped →
            e'.path = e.path ∧ e'.category = e.category ∧ e'.anchor = none ∧
              e'.result = .ok .alreadyWrapped) ∧
          (e.result ≠ .ok .wrapped → e' = e) := by
  intro first second
  obtain ⟨htree, hreport⟩ : second.tree = first.tree ∧
      second.report.entries = first.report.entries.map Entry.again := r.tree_and_entries_again tree
  refine ⟨htree, ?_, ?_, ?_⟩
  · rw [hreport, List.length_map]
  · rw [Report.wrapped, hreport, List.countP_eq_zero]
    intro e he
    obtain ⟨e₀, -, rfl⟩ := List.mem_map.1 he
    rw [Entry.isWrapped_again]
    simp
  · intro i e he
    refine ⟨e.again, ?_, ?_, ?_⟩
    · rw [hreport, List.getElem?_map, he, Option.map_some]
    · intro hwrapped
      rw [Entry.again, if_pos (e.isWrapped_iff.2 hwrapped)]
      exact ⟨rfl, rfl, rfl, rfl⟩
    · intro hwrapped
      rw [Entry.again, if_neg (mt e.isWrapped_iff.1 hwrapped)]

end Runner

end PageShell
