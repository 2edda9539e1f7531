import PageShell.Proofs.Effects
import PageShell.Proofs.RunEffect

/-!
# Visits under refusals

A visit may be refused to read the file or to write it. Then it notes this in its entry and leaves
the tree as it is; otherwise it does what is planned. So whatever is refused, every listed file is
visited in its turn, and no visit changes where a path leads.

Results:

* `visited_of_run`: all that can come of a visit.
* `Visited.isMissing_eq`, `missing_tour`: whatever is refused, the files that are reported as
  missing are those that are not there.
* `sameShape_tour`, `item?_tour_of_settled`: the shape of the tree is kept, and so are settled
  pages.
* `paths_tour`, `exists_visit`: every file of a list is visited in its turn.
* `exists_report`: a run gives a report.
-/

namespace PageShell

/-- Whether an entry says that there is no file. -/
def Entry.isMissing (e : Entry) : Bool := e.result matches .error (.missing _)

theorem Entry.isMissing_iff (e : Entry) :
    e.isMissing = true ↔ ∃ path, e.result = .error (.missing path) := by
  unfold isMissing
  split
  · rename_i path h
    exact ⟨fun _ => ⟨path, h⟩, fun _ => rfl⟩
  · rename_i h
    constructor
    · intro hfalse
      cases hfalse
    · rintro ⟨path, hresult⟩
      exact absurd hresult (h path)

namespace Runner

variable {r : Runner} {tree : FileTree} {file : String}

/-- A runner is loaded from the configuration of its workspace. -/
theorem load_eq_ok_iff [PatternReader] {w : Workspace} :
    load w tree = .ok r ↔
      w.load tree = .ok r.config ∧ r.workspace = w ∧ r.config.wrapping? = some r.wrapping := by
  rw [load, bind_eq_ok_iff]
  constructor
  · rintro ⟨c, hload, h⟩
    unfold ofConfig at h
    split at h
    · cases h
    · rename_i wrapping hwrapping
      cases h
      exact ⟨hload, rfl, hwrapping⟩
  · rintro ⟨hload, rfl, hwrapping⟩
    refine ⟨r.config, hload, ?_⟩
    rw [ofConfig, hwrapping]

/-- A file that cannot be previewed is not there, or it cannot be read. -/
theorem preview_error_cases {error : FileError} (h : r.preview tree file = .error error) :
    (r.workspace.isPresent tree file = false ∧ error = .missing (r.workspace.resolve file)) ∨
      r.workspace.isPresent tree file = true ∧ ∃ fault : FileFault, error = .io fault.message := by
  unfold Workspace.isPresent FileTree.isPresent
  unfold preview at h
  simp only at h
  split at h
  · rename_i hloc
    cases h
    rw [hloc]
    exact .inl ⟨rfl, rfl⟩
  · rename_i hloc
    rw [hloc]
    split at h
    · rename_i fault htext
      cases h
      exact .inr ⟨rfl, fault, rfl⟩
    · cases h

theorem category_of_preview {p : Page} (h : r.preview tree file = .ok p) :
    p.category = r.config.classify file := (preview_eq_ok_iff.1 h).2.2.1

theorem isPresent_of_preview {p : Page} (h : r.preview tree file = .ok p) :
    r.workspace.isPresent tree file = true := by
  rw [Workspace.isPresent, FileTree.isPresent, leadsTo_of_preview h]
  rfl

/-- Whether a file is there depends on nothing but the shape of the tree. -/
theorem isPresent_congr {tree' : FileTree} (h : tree.SameShape tree') :
    r.workspace.isPresent tree' file = r.workspace.isPresent tree file := by
  rw [Workspace.isPresent, FileTree.isPresent, ← h.locate_eq]
  rfl

end Runner

namespace Work

variable {s : Refusals} {r : Runner} {dryRun : Bool} {tree after : FileTree} {file : String}

/-! ## One visit -/

/-- What can come of a visit: what is planned, or a file that cannot be read, or a wrapped text that
cannot be written. -/
inductive Visited (s : Refusals) (r : Runner) (dryRun : Bool) (tree : FileTree) (file : String) :
    Entry → FileTree → Prop
  | asPlanned : Visited s r dryRun tree file (r.visit dryRun tree file).entry
      (r.visit dryRun tree file).tree
  | unread (fault : FileFault) (hpresent : r.workspace.isPresent tree file = true)
      (hrefused : s.read tree (r.workspace.resolve file) = some fault) :
      Visited s r dryRun tree file (Runner.entry file (.error (.io fault.message))) tree
  | unwritten (fault : FileFault) (p : Runner.Page) (u : Text) (a : Nat) (hdry : dryRun = false)
      (hp : r.preview tree file = .ok p) (hu : p.outcome = .wrapped u a)
      (hrefused : s.write tree (r.workspace.resolve file) u = some fault) :
      Visited s r dryRun tree file
        { Runner.entry file (.ok p) with result := .error (.io fault.message) } tree

theorem run_inspect {α : Type} (g : FileTree → α) : (inspect g).run tree = .ok (g tree) tree := rfl

/-- What can come of looking at a file. -/
theorem run_preview (s : Refusals) (r : Runner) (tree : FileTree) (file : String) :
    (preview s r file).run tree = .ok (r.preview tree file) tree ∨
      ∃ fault, r.workspace.isPresent tree file = true ∧
        s.read tree (r.workspace.resolve file) = some fault ∧
        (preview s r file).run tree = .ok (.error (.io fault.message)) tree := by
  rw [preview, run_bind, run_inspect]
  by_cases hpresent : tree.isPresent r.workspace.dir (r.workspace.resolve file) = true
  · simp only [hpresent, if_true]
    rw [run_bind, run_inspect]
    cases hread : s.read tree (r.workspace.resolve file) with
    | none => exact .inl rfl
    | some fault => exact .inr ⟨fault, hpresent, rfl, rfl⟩
  · simp only [hpresent]
    rw [Runner.preview_of_absent hpresent]
    exact .inl rfl

/-- What can come of dealing with a file that has been looked at. -/
theorem run_commit (s : Refusals) (r : Runner) (tree : FileTree) (file : String)
    (page : Except FileError Runner.Page) :
    (commit s r file page).run tree = .ok (Runner.entry file page) (Runner.commit tree page) ∨
      ∃ fault p u a, page = .ok p ∧ p.outcome = .wrapped u a ∧
        s.write tree (r.workspace.resolve file) u = some fault ∧
        (commit s r file page).run tree =
          .ok { Runner.entry file page with result := .error (.io fault.message) } tree := by
  cases page with
  | error e => exact .inl rfl
  | ok p =>
    obtain ⟨location, before, category, outcome⟩ := p
    cases outcome with
    | wrapped u a =>
      simp only [commit]
      rw [run_bind, EStateM.run, replace]
      cases hwrite : s.write tree (r.workspace.resolve file) u with
      | none => exact .inl rfl
      | some fault => exact .inr ⟨fault, _, u, a, rfl, rfl, hwrite, rfl⟩
    | alreadyWrapped | noRegion | unbalanced => exact .inl rfl

/-- **All that can come of a visit.** -/
theorem visited_of_run {e : Entry} {log : List Log.Record}
    (h : (visit s r dryRun file).run tree = .ok (e, log) after) :
    Visited s r dryRun tree file e after := by
  rw [visit, run_bind] at h
  rcases run_preview s r tree file with hrun | ⟨fault, hpresent, hrefused, hrun⟩
  · rw [hrun] at h
    cases dryRun with
    | true =>
      cases h
      exact .asPlanned
    | false =>
      simp only [Bool.false_eq_true, if_false, run_bind] at h
      rcases run_commit s r tree file (r.preview tree file) with
        hcommit | ⟨fault, p, u, a, hp, hu, hrefused, hcommit⟩
      · rw [hcommit] at h
        cases h
        exact .asPlanned
      · rw [hcommit] at h
        cases h
        rw [hp]
        exact .unwritten fault p u a rfl hp hu hrefused
  · rw [hrun] at h
    cases dryRun with
    | true =>
      cases h
      exact .unread fault hpresent hrefused
    | false =>
      cases h
      exact .unread fault hpresent hrefused

namespace Visited

variable {e : Entry}

theorem path_eq (h : Visited s r dryRun tree file e after) : e.path = file := by
  cases h with
  | asPlanned => exact Runner.entry_path file _
  | unread fault => rfl
  | unwritten fault p => rfl

/-- Whatever is refused, a visit keeps the shape of the tree. -/
theorem sameShape (h : Visited s r dryRun tree file e after) : tree.SameShape after := by
  cases h with
  | asPlanned =>
    cases dryRun with
    | true => exact .refl tree
    | false => exact r.visit_sameShape tree file
  | unread => exact .refl tree
  | unwritten => exact .refl tree

/-- **A visit reports a file as missing if it is not there**, whatever is refused. -/
theorem isMissing_eq (h : Visited s r dryRun tree file e after) :
    e.isMissing = !r.workspace.isPresent tree file := by
  cases h with
  | asPlanned =>
    change (Runner.entry file (r.preview tree file)).isMissing = _
    cases hp : r.preview tree file with
    | ok p =>
      rw [Runner.isPresent_of_preview hp]
      obtain ⟨location, before, category, outcome⟩ := p
      cases outcome with
      | wrapped | alreadyWrapped | noRegion | unbalanced => rfl
    | error error =>
      rcases Runner.preview_error_cases hp with ⟨habsent, rfl⟩ | ⟨hpresent, fault, rfl⟩
      · rw [habsent]
        rfl
      · rw [hpresent]
        rfl
  | unread fault hpresent =>
    rw [hpresent]
    rfl
  | unwritten fault p u a hdry hp =>
    rw [Runner.isPresent_of_preview hp]
    rfl

/-- A file that has a category in its entry has been looked at. -/
theorem exists_preview (h : Visited s r dryRun tree file e after) {c : Category}
    (hc : e.category = some c) : ∃ p, r.preview tree file = .ok p ∧ p.category = c := by
  cases h with
  | asPlanned =>
    change (Runner.entry file (r.preview tree file)).category = some c at hc
    cases hp : r.preview tree file with
    | error error =>
      rw [hp] at hc
      cases hc
    | ok p =>
      rw [hp] at hc
      cases hc
      exact ⟨p, rfl, rfl⟩
  | unread => cases hc
  | unwritten fault p u a hdry hp =>
    cases hc
    exact ⟨p, hp, rfl⟩

/-- A visit whose entry says that the file was wrapped has done what is planned. -/
theorem eq_visit_of_wrapped (h : Visited s r dryRun tree file e after)
    (hresult : e.result = .ok .wrapped) :
    e = (r.visit dryRun tree file).entry ∧ after = (r.visit dryRun tree file).tree := by
  cases h with
  | asPlanned => exact ⟨rfl, rfl⟩
  | unread => cases hresult
  | unwritten => cases hresult

/-- A settled page stays as it is, whatever is visited and whatever is refused. -/
theorem item?_of_settled (h : Visited s r dryRun tree file e after) {loc : Location}
    (hs : r.Settled tree loc) : after.item? loc = tree.item? loc := by
  cases h with
  | asPlanned =>
    cases dryRun with
    | true => rfl
    | false => exact Runner.visit_item?_of_settled hs file
  | unread => rfl
  | unwritten => rfl

end Visited

/-! ## All visits -/

variable {files : List String} {es : List Entry} {log : List Log.Record}

theorem tour_cons (h : (tour s r dryRun (file :: files)).run tree = .ok (es, log) after) :
    ∃ e first mid others later, (visit s r dryRun file).run tree = .ok (e, first) mid ∧
      (tour s r dryRun files).run mid = .ok (others, later) after ∧ es = e :: others := by
  obtain ⟨⟨e, first⟩, mid, hvisit, h⟩ := exists_of_run_bind h
  obtain ⟨⟨others, later⟩, left, htour, h⟩ := exists_of_run_bind h
  cases h
  exact ⟨e, first, mid, others, later, hvisit, htour, rfl⟩

/-- Whatever is refused, a tour keeps the shape of the tree. -/
theorem sameShape_tour (h : (tour s r dryRun files).run tree = .ok (es, log) after) :
    tree.SameShape after := by
  induction files generalizing tree es log with
  | nil =>
    cases h
    exact .refl _
  | cons file files ih =>
    obtain ⟨e, first, mid, others, later, hvisit, htour, rfl⟩ := tour_cons h
    exact (visited_of_run hvisit).sameShape.trans (ih htour)

/-- A settled page stays as it is, whatever files are visited and whatever is refused. -/
theorem item?_tour_of_settled {loc : Location} (hs : r.Settled tree loc)
    (h : (tour s r dryRun files).run tree = .ok (es, log) after) :
    after.item? loc = tree.item? loc := by
  induction files generalizing tree es log with
  | nil =>
    cases h
    rfl
  | cons file files ih =>
    obtain ⟨e, first, mid, others, later, hvisit, htour, rfl⟩ := tour_cons h
    have hitem := (visited_of_run hvisit).item?_of_settled hs
    rw [ih (hs.of_item? hitem) htour, hitem]

/-- **There is one entry for each file, in the order of the list**, whatever is refused. -/
theorem paths_tour (h : (tour s r dryRun files).run tree = .ok (es, log) after) :
    es.map Entry.path = files := by
  induction files generalizing tree es log with
  | nil =>
    cases h
    rfl
  | cons file files ih =>
    obtain ⟨e, first, mid, others, later, hvisit, htour, rfl⟩ := tour_cons h
    rw [List.map_cons, (visited_of_run hvisit).path_eq, ih htour]

/-- **The files that are reported as missing are those that are not there**, in the order of the
list, whatever is refused. -/
theorem missing_tour (h : (tour s r dryRun files).run tree = .ok (es, log) after) :
    (es.filter Entry.isMissing).map Entry.path =
      files.filter fun file => !r.workspace.isPresent tree file := by
  induction files generalizing tree es log with
  | nil =>
    cases h
    rfl
  | cons file files ih =>
    obtain ⟨e, first, mid, others, later, hvisit, htour, rfl⟩ := tour_cons h
    have hvisited := visited_of_run hvisit
    have hothers := ih htour
    simp only [Runner.isPresent_congr hvisited.sameShape] at hothers
    rw [List.filter_cons, List.filter_cons, hvisited.isMissing_eq]
    cases r.workspace.isPresent tree file with
    | true => exact hothers
    | false =>
      simp only [Bool.not_false, if_true, List.map_cons, hvisited.path_eq, hothers]

/-- **Every file of a list is visited** in the tree that the visits before it leave. -/
theorem exists_visit {before rest : List String}
    (h : (tour s r dryRun (before ++ file :: rest)).run tree = .ok (es, log) after) :
    ∃ earlier seen mid e own left later last,
      (tour s r dryRun before).run tree = .ok (earlier, seen) mid ∧
        (visit s r dryRun file).run mid = .ok (e, own) left ∧
        (tour s r dryRun rest).run left = .ok (later, last) after ∧
        es[before.length]? = some e := by
  induction before generalizing tree es log with
  | nil =>
    obtain ⟨e, own, left, later, last, hvisit, htour, rfl⟩ := tour_cons h
    exact ⟨[], [], tree, e, own, left, later, last, rfl, hvisit, htour, rfl⟩
  | cons g before ih =>
    obtain ⟨e₀, own₀, mid₀, others, last₀, hvisit₀, htour₀, rfl⟩ := tour_cons h
    obtain ⟨earlier, seen, mid, e, own, left, later, last, hbefore, hvisit, hrest, hentry⟩ :=
      ih htour₀
    refine ⟨e₀ :: earlier, own₀ ++ Runner.warning e₀ ++ seen, mid, e, own, left, later, last, ?_,
      hvisit, hrest, hentry⟩
    rw [tour, run_bind, hvisit₀]
    change (tour s r dryRun before >>= _).run mid₀ = _
    rw [run_bind, hbefore]
    rfl

/-- **A run gives a report**, whatever is refused: that of a tour of the listed files. -/
theorem exists_report (s : Refusals) (r : Runner) (dryRun : Bool) (tree : FileTree) :
    ∃ es log seen after, (runFiles s r dryRun).run tree = .ok (⟨dryRun, es⟩, log) after ∧
      (tour s r dryRun r.config.files).run tree = .ok (es, seen) after := by
  obtain ⟨⟨es, seen⟩, after, htour⟩ := succeeds_tour s r dryRun r.config.files tree
  refine ⟨es, r.startRecord dryRun :: seen ++ [Runner.endRecord ⟨dryRun, es⟩], seen, after, ?_,
    htour⟩
  rw [runFiles, run_bind, htour]
  rfl

end Work

end PageShell
