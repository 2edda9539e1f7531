import PageShell.Proofs.FileWrite
import PageShell.Proofs.Rerun

/-!
# What a run does

What a run does to a file tree can be told beforehand. The first listed path that leads to a file
decides what becomes of the file, whichever other paths lead there later, and nothing but the texts
of such files changes. A dry run foretells every entry of the run that writes, but for files that
an earlier path has led to already.

Results:

* `visit_item?_of_not_leadsTo`, `visit_item?_of_text`: what a visit does to an item.
* `tour_item?_of_first`: the first path that leads to a file decides.
* `run_effect`: the tree after a run, in terms of the tree before it.
* `preview_of_not_isRepeated`, `preview_of_isRepeated`: how a run finds a file, in terms of the tree
  before it.
* `isRepeated_take_iff`: which listed files are repeated, in terms of the dry run.
* `dryRun_foretells`: a dry run foretells the run that writes.
-/

namespace PageShell.Runner

/-- The path of a listed file leads to a location, through whatever links. -/
def LeadsTo (r : Runner) (tree : FileTree) (file : String) (loc : Location) : Prop :=
  tree.locate r.workspace.dir (r.workspace.resolve file) = .ok loc

variable {r : Runner} {tree tree' : FileTree} {file : String} {loc loc' : Location}

theorem LeadsTo.unique (h : r.LeadsTo tree file loc) (h' : r.LeadsTo tree file loc') :
    loc = loc' := by
  unfold LeadsTo at h h'
  rw [h] at h'
  exact Except.ok.inj h'

theorem leadsTo_congr (h : tree.SameShape tree') :
    r.LeadsTo tree' file loc ↔ r.LeadsTo tree file loc := by
  unfold LeadsTo
  rw [h.locate_eq]

theorem leadsTo_of_preview {p : Page} (h : r.preview tree file = .ok p) :
    r.LeadsTo tree file p.location := (preview_eq_ok_iff.1 h).1

/-- A preview gives the page that the path of a file leads to. -/
theorem preview_of_textAt {t : Text} (h : r.LeadsTo tree file loc)
    (htext : tree.textAt loc = .ok t) : r.preview tree file = .ok ⟨loc, t, r.config.classify file,
      r.wrapping.wrap (r.config.classify file) t⟩ :=
  preview_eq_ok_iff.2 ⟨h, htext, rfl, rfl⟩

/-- So it gives the page that is there under the path itself. -/
theorem preview_of_file {t : Text} {mode : Nat}
    (hlookup : tree.lookup r.workspace.dir (r.workspace.resolve file) = .ok (.item loc))
    (hitem : tree.item? loc = some (.file (.text t) mode)) :
    r.preview tree file = .ok ⟨loc, t, r.config.classify file,
      r.wrapping.wrap (r.config.classify file) t⟩ := by
  have hleads : r.LeadsTo tree file loc := by rw [LeadsTo, FileTree.locate, hlookup]
  exact preview_of_textAt hleads (FileTree.textAt_of_item? hitem)

/-- A preview is the same in a tree of the same shape, with the same item where the path leads. -/
theorem preview_of_sameShape (h : tree.SameShape tree')
    (hitem : ∀ loc, r.LeadsTo tree file loc → tree'.item? loc = tree.item? loc) :
    r.preview tree' file = r.preview tree file :=
  preview_congr (h.locate_eq _ _).symm fun loc hloc => textAt_eq_of_item? (hitem loc hloc)

/-! ## The effect of a visit -/

theorem visit_item?_of_not_leadsTo (h : ¬r.LeadsTo tree file loc) :
    (r.visit false tree file).tree.item? loc = tree.item? loc := by
  rcases r.visit_cases tree file with ⟨-, htree⟩ | ⟨p, u, a, hp, -, htree⟩
  · rw [htree]
  · have hne : loc ≠ p.location := by
      rintro rfl
      exact h (leadsTo_of_preview hp)
    rw [htree, FileTree.item?_putText_of_ne tree hne]

/-- **A visit wraps the text of the file that its path leads to**, if it can be wrapped. -/
theorem visit_item?_of_text {t : Text} {mode : Nat} (h : r.LeadsTo tree file loc)
    (hitem : tree.item? loc = some (.file (.text t) mode)) :
    (r.visit false tree file).tree.item? loc =
      some (.file (.text ((r.wrapping.wrap (r.config.classify file) t).textAfter t)) mode) := by
  change (commit tree (r.preview tree file)).item? loc = _
  rw [preview_of_textAt h (FileTree.textAt_of_item? hitem)]
  cases hw : r.wrapping.wrap (r.config.classify file) t with
  | wrapped u a => exact FileTree.item?_putText_self hitem u
  | alreadyWrapped | noRegion | unbalanced => exact hitem

/-! ## The effect of a tour -/

theorem tour_append_tree (r : Runner) (dryRun : Bool) (tree : FileTree) (xs ys : List String) :
    (r.tour dryRun tree (xs ++ ys)).tree =
      (r.tour dryRun (r.tour dryRun tree xs).tree ys).tree := by
  induction xs generalizing tree with
  | nil => rfl
  | cons x xs ih => exact ih _

theorem tour_item?_of_not_leadsTo {files : List String}
    (h : ∀ file ∈ files, ¬r.LeadsTo tree file loc) :
    (r.tour false tree files).tree.item? loc = tree.item? loc := by
  induction files generalizing tree with
  | nil => rfl
  | cons file files ih =>
    have hshape := r.visit_sameShape tree file
    have hvisit := visit_item?_of_not_leadsTo (h file List.mem_cons_self)
    rw [tour, ih fun file' hfile' => ?_, hvisit]
    rw [leadsTo_congr hshape]
    exact h file' (List.mem_cons_of_mem _ hfile')

/-- **The first path that leads to a file decides** what becomes of its text. -/
theorem tour_item?_of_first {before : List String} {t : Text} {mode : Nat}
    (hfile : r.LeadsTo tree file loc) (hbefore : ∀ g ∈ before, ¬r.LeadsTo tree g loc)
    (hitem : tree.item? loc = some (.file (.text t) mode)) (rest : List String) :
    (r.tour false tree (before ++ file :: rest)).tree.item? loc =
      some (.file (.text ((r.wrapping.wrap (r.config.classify file) t).textAfter t)) mode) := by
  have hshape := r.tour_sameShape tree before
  have hfile' := (leadsTo_congr hshape).2 hfile
  have hitem' := (tour_item?_of_not_leadsTo hbefore).trans hitem
  rw [tour_append_tree, tour, tour_item?_of_settled (settled_visit hfile'),
    visit_item?_of_text hfile' hitem']

/-- Of the paths that lead to a location, one is the first. -/
theorem exists_first {files : List String} (h : ∃ file ∈ files, r.LeadsTo tree file loc) :
    ∃ before file rest, files = before ++ file :: rest ∧ r.LeadsTo tree file loc ∧
      ∀ g ∈ before, ¬r.LeadsTo tree g loc := by
  induction files with
  | nil =>
    obtain ⟨file, hmem, -⟩ := h
    cases hmem
  | cons file files ih =>
    by_cases hfile : r.LeadsTo tree file loc
    · exact ⟨[], file, files, rfl, hfile, by simp⟩
    · obtain ⟨f, hmem, hf⟩ := h
      have hrest : f ∈ files := by
        rcases List.mem_cons.1 hmem with rfl | hmem
        · exact absurd hf hfile
        · exact hmem
      obtain ⟨before, first, rest, rfl, hfirst, hbefore⟩ := ih ⟨f, hrest, hf⟩
      refine ⟨file :: before, first, rest, rfl, hfirst, ?_⟩
      intro g hg
      rcases List.mem_cons.1 hg with rfl | hg
      · exact hfile
      · exact hbefore g hg

/-- A location is due for a run over some files: one of their paths leads there, and the file there
holds a text that can be wrapped. -/
def IsDue (r : Runner) (tree : FileTree) (files : List String) (loc : Location) : Prop :=
  (∃ file ∈ files, r.LeadsTo tree file loc) ∧
    ∃ t c, tree.textAt loc = .ok t ∧ (r.wrapping.wrap c t).isWrapped = true

theorem settled_of_not_isDue {files : List String} (h : ¬r.IsDue tree files loc)
    (hfile : file ∈ files) (hleads : r.LeadsTo tree file loc) : r.Settled tree loc := by
  intro t ht c
  rw [Bool.eq_false_iff]
  intro hw
  exact h ⟨⟨file, hfile, hleads⟩, t, c, ht, hw⟩

theorem tour_item?_of_not_isDue {files : List String} (h : ¬r.IsDue tree files loc) :
    (r.tour false tree files).tree.item? loc = tree.item? loc := by
  by_cases hleads : ∃ file ∈ files, r.LeadsTo tree file loc
  · obtain ⟨file, hfile, hleads⟩ := hleads
    exact tour_item?_of_settled (settled_of_not_isDue h hfile hleads) files
  · exact tour_item?_of_not_leadsTo fun file hfile hloc => hleads ⟨file, hfile, hloc⟩

theorem tour_item?_of_isDue {files : List String} (h : r.IsDue tree files loc) :
    ∃ before file rest t u a mode, files = before ++ file :: rest ∧ r.LeadsTo tree file loc ∧
      (∀ g ∈ before, ¬r.LeadsTo tree g loc) ∧
      tree.item? loc = some (.file (.text t) mode) ∧
      r.wrapping.wrap (r.config.classify file) t = .wrapped u a ∧
      (r.tour false tree files).tree.item? loc = some (.file (.text u) mode) := by
  obtain ⟨hleads, t, c, htext, hw⟩ := h
  obtain ⟨before, file, rest, rfl, hfile, hbefore⟩ := exists_first hleads
  obtain ⟨mode, hitem⟩ := item?_of_textAt htext
  have hafter := tour_item?_of_first hfile hbefore hitem rest
  rw [Wrapping.isWrapped_wrap _ c (r.config.classify file)] at hw
  cases houtcome : r.wrapping.wrap (r.config.classify file) t with
  | wrapped u a =>
    rw [houtcome] at hafter
    exact ⟨before, file, rest, t, u, a, mode, rfl, hfile, hbefore, hitem, houtcome, hafter⟩
  | alreadyWrapped | noRegion | unbalanced =>
    rw [houtcome] at hw
    cases hw

/-! ## The effect of a run -/

/-- **The tree after a run**, in terms of the tree before it. It has the same directories, links,
names and modes. A file that is due has its text wrapped for the category of the first listed path
that leads to it, and every other item is as it was. Each write may go through a temporary file
under any free name, of which nothing is left. -/
theorem run_effect (r : Runner) (tree : FileTree) :
    let after := (r.run false tree).tree
    tree.SameShape after ∧
      (∀ loc, r.IsDue tree r.config.files loc →
        ∃ before file rest t u a mode, r.config.files = before ++ file :: rest ∧
          r.LeadsTo tree file loc ∧ (∀ g ∈ before, ¬r.LeadsTo tree g loc) ∧
          tree.item? loc = some (.file (.text t) mode) ∧
          r.wrapping.wrap (r.config.classify file) t = .wrapped u a ∧
          after.item? loc = some (.file (.text u) mode)) ∧
      (∀ loc, ¬r.IsDue tree r.config.files loc → after.item? loc = tree.item? loc) ∧
      ∀ (before : FileTree) (file : String) (p : Page) (u : Text) (a : Nat) (temporary : Location),
        r.preview before file = .ok p → p.outcome = .wrapped u a →
          before.item? temporary = none →
            (r.visit false before file).tree = before.replaceText p.location temporary u := by
  refine ⟨r.tour_sameShape tree r.config.files, fun loc hdue => tour_item?_of_isDue hdue,
    fun loc hdue => tour_item?_of_not_isDue hdue, ?_⟩
  intro before file p u a temporary hp hu hfree
  rw [FileTree.replaceText_eq_putText hfree]
  change commit before (r.preview before file) = _
  rw [hp]
  obtain ⟨location, text, category, outcome⟩ := p
  cases hu
  rfl

/-! ## What a dry run foretells -/

/-- A tour that writes nothing finds every file as it is at the start. -/
theorem tour_dryRun_entries (r : Runner) (tree : FileTree) (files : List String) :
    (r.tour true tree files).entries = files.map fun file => entry file (r.preview tree file) := by
  induction files with
  | nil => rfl
  | cons file files ih =>
    rw [tour, visit_dryRun, ih]
    rfl

/-- A tour that writes finds every file as the files before it in the list have left it. -/
theorem tour_entries_append (r : Runner) (tree : FileTree) (before : List String) (file : String)
    (rest : List String) :
    (r.tour false tree (before ++ file :: rest)).entries[before.length]? =
      some (entry file (r.preview (r.tour false tree before).tree file)) := by
  induction before generalizing tree with
  | nil => rfl
  | cons g before ih => exact ih _

/-- A file is repeated behind some others if its path leads to a location that is due for them. -/
def IsRepeated (r : Runner) (tree : FileTree) (before : List String) (file : String) : Prop :=
  ∃ loc, r.LeadsTo tree file loc ∧ r.IsDue tree before loc

/-- A path that leads to a file that can be wrapped is reported as wrapped by a dry run. -/
theorem isWrapped_entry_iff (hleads : r.LeadsTo tree file loc) :
    (entry file (r.preview tree file)).isWrapped = true ↔
      ∃ t c, tree.textAt loc = .ok t ∧ (r.wrapping.wrap c t).isWrapped = true := by
  constructor
  · intro h
    cases hp : r.preview tree file with
    | error e =>
      rw [hp] at h
      cases h
    | ok p =>
      rw [hp, isWrapped_entry] at h
      obtain ⟨hloc, htext, -, houtcome⟩ := preview_eq_ok_iff.1 hp
      obtain rfl := LeadsTo.unique hloc hleads
      exact ⟨p.before, p.category, htext, houtcome ▸ h⟩
  · rintro ⟨t, c, htext, hw⟩
    rw [preview_of_textAt hleads htext, isWrapped_entry, Wrapping.isWrapped_wrap _ _ c, hw]

/-- A file that is not repeated is found as it was at the start. -/
theorem preview_of_not_isRepeated {before : List String} (h : ¬r.IsRepeated tree before file) :
    r.preview (r.tour false tree before).tree file = r.preview tree file := by
  apply preview_of_sameShape (r.tour_sameShape tree before)
  intro loc hleads
  apply tour_item?_of_not_isDue
  intro hdue
  exact h ⟨loc, hleads, hdue⟩

/-- A file that is repeated would be wrapped at the start, and is found wrapped. -/
theorem preview_of_isRepeated {before : List String} (h : r.IsRepeated tree before file) :
    ∃ p, r.preview tree file = .ok p ∧ p.outcome.isWrapped = true ∧
      ∃ u, r.preview (r.tour false tree before).tree file =
        .ok ⟨p.location, u, p.category, .alreadyWrapped⟩ := by
  obtain ⟨loc, hleads, hdue⟩ := h
  obtain ⟨-, first, -, t, u, a, mode, -, -, -, hitem, hwrap, hafter⟩ := tour_item?_of_isDue hdue
  refine ⟨_, preview_of_textAt hleads (FileTree.textAt_of_item? hitem), ?_, u, ?_⟩
  · rw [Wrapping.isWrapped_wrap _ _ (r.config.classify first), hwrap]
    rfl
  · rw [preview_of_textAt ((leadsTo_congr (r.tour_sameShape tree before)).2 hleads)
      (FileTree.textAt_of_item? hafter), Wrapping.wrap_of_wrapped hwrap rfl]

theorem run_dryRun_entry {i : Nat} (h : r.config.files[i]? = some file) :
    (r.run true tree).report.entries[i]? = some (entry file (r.preview tree file)) := by
  change (r.tour true tree r.config.files).entries[i]? = _
  rw [tour_dryRun_entries, List.getElem?_map, h, Option.map_some]

theorem run_entry {i : Nat} (h : r.config.files[i]? = some file) :
    (r.run false tree).report.entries[i]? =
      some (entry file (r.preview (r.tour false tree (r.config.files.take i)).tree file)) := by
  obtain ⟨hi, hget⟩ := List.getElem?_eq_some_iff.1 h
  have hsplit : r.config.files = r.config.files.take i ++ file :: r.config.files.drop (i + 1) := by
    rw [← hget, List.getElem_cons_drop, List.take_append_drop]
  have hlength : (r.config.files.take i).length = i := List.length_take_of_le (Nat.le_of_lt hi)
  have hentry := r.tour_entries_append tree (r.config.files.take i) file
    (r.config.files.drop (i + 1))
  rw [← hsplit, hlength] at hentry
  exact hentry

/-- A listed file is repeated behind those before it in the list exactly if one of them leads to
the same location and is wrapped by the dry run. -/
theorem isRepeated_take_iff (r : Runner) (tree : FileTree) (i : Nat) (file : String) :
    r.IsRepeated tree (r.config.files.take i) file ↔
      ∃ j < i, ∃ g loc d, r.config.files[j]? = some g ∧ r.LeadsTo tree file loc ∧
        r.LeadsTo tree g loc ∧ (r.run true tree).report.entries[j]? = some d ∧
        d.result = .ok .wrapped := by
  constructor
  · rintro ⟨loc, hfile, ⟨g, hg, hleads⟩, hw⟩
    obtain ⟨j, hj⟩ := List.mem_iff_getElem?.1 hg
    have hji : j < i := by
      have := (List.getElem?_eq_some_iff.1 hj).1
      rw [List.length_take] at this
      omega
    rw [List.getElem?_take_of_lt hji] at hj
    exact ⟨j, hji, g, loc, _, hj, hfile, hleads, run_dryRun_entry hj,
      (Entry.isWrapped_iff _).1 ((isWrapped_entry_iff hleads).2 hw)⟩
  · rintro ⟨j, hji, g, loc, d, hj, hfile, hleads, hd, hresult⟩
    rw [run_dryRun_entry hj, Option.some.injEq] at hd
    subst hd
    have hg : g ∈ r.config.files.take i := by
      rw [List.mem_iff_getElem?]
      exact ⟨j, (List.getElem?_take_of_lt hji).trans hj⟩
    exact ⟨loc, hfile, ⟨g, hg, hleads⟩,
      (isWrapped_entry_iff hleads).1 ((Entry.isWrapped_iff _).2 hresult)⟩

/-- The entry of a file that is repeated is not the one that the dry run has for it. -/
theorem entry_of_isRepeated {before : List String} (h : r.IsRepeated tree before file) :
    (entry file (r.preview tree file)).result = .ok .wrapped ∧
      entry file (r.preview (r.tour false tree before).tree file) =
        ⟨file, (entry file (r.preview tree file)).category, none, .ok .alreadyWrapped⟩ := by
  obtain ⟨p, hp, hw, u, hp'⟩ := preview_of_isRepeated h
  rw [hp, hp', ← Entry.isWrapped_iff, isWrapped_entry]
  exact ⟨hw, rfl⟩

theorem entry_path (file : String) (page : Except FileError Page) :
    (entry file page).path = file := by
  cases page <;> rfl

/-- Where no two of the listed paths lead to the same file, no file is repeated. -/
theorem entries_of_pairwise
    (h : r.config.files.Pairwise fun f g => ∀ loc, r.LeadsTo tree f loc → ¬r.LeadsTo tree g loc) :
    (r.run false tree).report.entries = (r.run true tree).report.entries := by
  apply List.ext_getElem?
  intro i
  cases hfile : r.config.files[i]? with
  | none =>
    have hi := List.getElem?_eq_none_iff.1 hfile
    rw [List.getElem?_eq_none (by rw [entries_length]; exact hi),
      List.getElem?_eq_none (by rw [entries_length]; exact hi)]
  | some file =>
    have hnot : ¬r.IsRepeated tree (r.config.files.take i) file := by
      rw [isRepeated_take_iff]
      rintro ⟨j, hji, g, loc, -, hg, hleads, hgl, -⟩
      obtain ⟨hi, rfl⟩ := List.getElem?_eq_some_iff.1 hfile
      obtain ⟨hj, rfl⟩ := List.getElem?_eq_some_iff.1 hg
      exact List.pairwise_iff_getElem.1 h j i hj hi hji loc hgl hleads
    rw [run_entry hfile, run_dryRun_entry hfile, preview_of_not_isRepeated hnot]

/-- **A dry run foretells the run that writes.** It changes nothing, and each of its entries is
that of the run that writes, except exactly where an earlier path of the list leads to the same
file and the dry run wraps it: the run that writes finds such a file wrapped already. -/
theorem dryRun_foretells (r : Runner) (tree : FileTree) :
    let dry := r.run true tree
    let real := r.run false tree
    dry.tree = tree ∧
      real.report.entries.length = dry.report.entries.length ∧
      (∀ (i : Nat) (file : String), r.config.files[i]? = some file →
        ∃ e e', dry.report.entries[i]? = some e ∧ real.report.entries[i]? = some e' ∧
          let repeated := ∃ j < i, ∃ g loc d, r.config.files[j]? = some g ∧
            r.LeadsTo tree file loc ∧ r.LeadsTo tree g loc ∧
            dry.report.entries[j]? = some d ∧ d.result = .ok .wrapped
          (e' = e ↔ ¬repeated) ∧
            (repeated → e'.path = e.path ∧ e'.category = e.category ∧ e'.anchor = none ∧
              e'.result = .ok .alreadyWrapped)) ∧
      ((r.config.files.Pairwise fun f g => ∀ loc, r.LeadsTo tree f loc → ¬r.LeadsTo tree g loc) →
        real.report.entries = dry.report.entries ∧
          real.report.wrapped = dry.report.wrapped ∧
          real.report.alreadyWrapped = dry.report.alreadyWrapped ∧
          real.report.failed = dry.report.failed) := by
  intro dry real
  refine ⟨r.run_dryRun tree, ?_, ?_, ?_⟩
  · rw [entries_length, entries_length]
  · intro i file hfile
    refine ⟨_, _, run_dryRun_entry hfile, run_entry hfile, ?_⟩
    rw [← isRepeated_take_iff]
    refine ⟨⟨?_, ?_⟩, ?_⟩
    · intro heq hrep
      obtain ⟨hresult, hreal⟩ := entry_of_isRepeated hrep
      rw [← heq, hreal] at hresult
      cases hresult
    · intro hrep
      rw [preview_of_not_isRepeated hrep]
    · intro hrep
      obtain ⟨-, hreal⟩ := entry_of_isRepeated hrep
      rw [hreal, entry_path]
      exact ⟨rfl, rfl, rfl, rfl⟩
  · intro hpair
    have hentries : real.report.entries = dry.report.entries := entries_of_pairwise hpair
    refine ⟨hentries, ?_, ?_, ?_⟩
    · rw [Report.wrapped, hentries, Report.wrapped]
    · rw [Report.alreadyWrapped, hentries, Report.alreadyWrapped]
    · rw [Report.failed, hentries, Report.failed]

end PageShell.Runner
