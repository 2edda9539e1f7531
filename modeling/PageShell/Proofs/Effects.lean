import PageShell.Command
import PageShell.Proofs.Rerun
import PageShell.Proofs.Work

/-!
# Effects of commands

A command is work on a file tree. Here it is taken apart into the steps in which it looks at the
tree and writes to it, in their order, so that a command that fails half way leaves what it has
written.

Results:

* `Work.succeeds_tour`: dealing with files does not fail, whatever is refused.
* `Command.failsClean_work`, `Command.keepsTree_work`: a command that fails has not written, and
  one that only looks never writes.
* `Command.result_work`: if nothing is refused, the steps come to what the command does.
* `Command.tree_kept`: a command that fails or only looks leaves the file tree as it was, whatever
  is refused.
-/

namespace PageShell

namespace Work

/-! ## Operations on a workspace -/

/-- The configuration of a workspace. -/
def load (s : Refusals) (w : Workspace) : Work Config := do
  if ← inspect (·.isPresent w.dir w.configPath) then
    let t ← read s w.dir w.configPath .unreadableConfig
    require (((Config.ofToml? t).map .ok).getD (.error .malformedConfig))
  else return .default

/-- Writes a configuration. -/
def save (s : Refusals) (w : Workspace) (c : Config) : Work Unit :=
  write s w.dir w.configPath c.toToml .unwritableConfig

/-- Writes the default configuration unless there is one. -/
def init (s : Refusals) (w : Workspace) : Work Bool := do
  if ← inspect (·.isPresent w.dir w.configPath) then return false
  else
    save s w .default
    return true

/-- Adds files to the list. -/
def addFiles (s : Refusals) (w : Workspace) (new : List String) : Work Nat := do
  let c ← load s w
  let merged := FileList.merge c.files new
  save s w { c with files := merged.files }
  return merged.count

/-- Removes files from the list. -/
def removeFiles (s : Refusals) (w : Workspace) (gone : List String) : Work Nat := do
  let c ← load s w
  let files := FileList.remove c.files gone
  save s w { c with files }
  return c.files.length - files.length

/-- Adds the entries of a list file to the list. -/
def importFiles (s : Refusals) (w : Workspace) (path : String) : Work Nat := do
  let t ← read s w.dir path (.unreadableList path)
  addFiles s w (FileList.parse t)

/-- Writes the configuration to a file. -/
def exportConfig (s : Refusals) (w : Workspace) (path : String) (format : Format) : Work Unit := do
  let c ← load s w
  write s w.dir path (c.written format) .unwritableExport

/-! ## Runs -/

/-- A runner for the configuration of a workspace. -/
def runner [PatternReader] (s : Refusals) (w : Workspace) : Work Runner := do
  require (Runner.ofConfig w (← load s w))

/-- What becomes of a listed file. -/
def preview (s : Refusals) (r : Runner) (file : String) : Work (Except FileError Runner.Page) := do
  let path := r.workspace.resolve file
  if ← inspect (·.isPresent r.workspace.dir path) then
    match ← inspect (s.read · path) with
    | some fault => return .error (.io fault.message)
    | none => inspect (r.preview · file)
  else return .error (.missing path)

/-- Writes a page that has been wrapped. A failure to do so is noted in its entry. -/
def commit (s : Refusals) (r : Runner) (file : String) :
    Except FileError Runner.Page → Work Entry
  | .ok ⟨location, before, category, .wrapped text anchor⟩ => do
    let entry := Runner.entry file (.ok ⟨location, before, category, .wrapped text anchor⟩)
    match ← replace s (r.workspace.resolve file) location text with
    | some fault => return { entry with result := .error (.io fault.message) }
    | none => return entry
  | page => return Runner.entry file page

/-- Deals with a listed file. -/
def visit (s : Refusals) (r : Runner) (dryRun : Bool) (file : String) :
    Work (Entry × List Log.Record) := do
  let page ← preview s r file
  let log := r.previewLog file page
  if dryRun then return (Runner.entry file page, log ++ Runner.dryRunLog file page)
  else return (← commit s r file page, log ++ [])

/-- Deals with files one after the other. -/
def tour (s : Refusals) (r : Runner) (dryRun : Bool) :
    List String → Work (List Entry × List Log.Record)
  | [] => return ([], [])
  | file :: files => do
    let (entry, log) ← visit s r dryRun file
    let (entries, logs) ← tour s r dryRun files
    return (entry :: entries, log ++ Runner.warning entry ++ logs)

/-- Deals with all files of the configuration. -/
def runFiles (s : Refusals) (r : Runner) (dryRun : Bool) : Work (Report × List Log.Record) := do
  let (entries, log) ← tour s r dryRun r.config.files
  let report : Report := ⟨dryRun, entries⟩
  return (report, r.startRecord dryRun :: log ++ [Runner.endRecord report])

end Work

namespace Command

/-- The work of a command. -/
def work [PatternReader] (refusals : Refusals) (s : Circumstances) (w : Workspace) :
    Command → Work Response
  | init => do
    return initResponse w (← Work.init refusals w)
  | run dryRun => do
    let r ← Work.runner refusals w
    let (report, log) ← Work.runFiles refusals r dryRun
    return runResponse s r.config report log
  | preview file => do
    let r ← Work.runner refusals w
    Work.require (previewResponse r file (← Work.preview refusals r file))
  | classify paths => do
    return classifyResponse (← Work.load refusals w) paths
  | validate => do
    let c ← Work.load refusals w
    return validateResponse (← Work.inspect (w.issues · c))
  | list => do
    let c ← Work.load refusals w
    return .ofOutput (← Work.inspect (w.listLines · c))
  | add files => do
    return addResponse (← Work.addFiles refusals w files)
  | remove files => do
    return removeResponse (← Work.removeFiles refusals w files)
  | importList path => do
    return importResponse path (← Work.importFiles refusals w path)
  | exportTo path format => do
    Work.exportConfig refusals w path (.ofName format)
    return exportResponse path

/-- Carries out a command by its steps. The tree is that at the end of the work, also if the work
fails. -/
def carryOut [PatternReader] (refusals : Refusals) (s : Circumstances) (tree : FileTree)
    (c : Command) : Response × FileTree :=
  match Root.resolve tree s.dir s.root with
  | .error f => (.ofFailure f, tree)
  | .ok found =>
    match (c.work refusals s ⟨found.root, s.dir⟩).run tree with
    | .error f after => ({ Response.ofFailure f with log := found.log }, after)
    | .ok response after => ({ response with log := found.log ++ response.log }, after)

end Command

namespace Work

/-! ## What is left by the operations -/

theorem keepsTree_load (s : Refusals) (w : Workspace) : KeepsTree (load s w) := by
  refine .bind (looks_inspect _).keepsTree fun present => ?_
  split
  · exact .bind (keepsTree_read _ _ _) fun t => keepsTree_require _
  · exact (looks_pure _).keepsTree

theorem keepsTree_runner [PatternReader] (s : Refusals) (w : Workspace) : KeepsTree (runner s w) :=
  .bind (keepsTree_load s w) fun _ => keepsTree_require _

theorem failsClean_save (s : Refusals) (w : Workspace) (c : Config) : FailsClean (save s w c) :=
  failsClean_write _ _ _ _

theorem failsClean_init (s : Refusals) (w : Workspace) : FailsClean (init s w) := by
  refine .bind (looks_inspect _).keepsTree fun present => ?_
  split
  · exact (looks_pure _).keepsTree.failsClean
  · exact .bind_pure (failsClean_save s w _)

theorem failsClean_addFiles (s : Refusals) (w : Workspace) (new : List String) :
    FailsClean (addFiles s w new) :=
  .bind (keepsTree_load s w) fun _ => .bind_pure (failsClean_save s w _)

theorem failsClean_removeFiles (s : Refusals) (w : Workspace) (gone : List String) :
    FailsClean (removeFiles s w gone) :=
  .bind (keepsTree_load s w) fun _ => .bind_pure (failsClean_save s w _)

theorem failsClean_importFiles (s : Refusals) (w : Workspace) (path : String) :
    FailsClean (importFiles s w path) :=
  .bind (keepsTree_read _ _ _) fun t => failsClean_addFiles s w (FileList.parse t)

theorem failsClean_exportConfig (s : Refusals) (w : Workspace) (path : String) (format : Format) :
    FailsClean (exportConfig s w path format) :=
  .bind (keepsTree_load s w) fun _ => failsClean_write _ _ _ _

/-! ### Runs -/

theorem looks_preview (s : Refusals) (r : Runner) (file : String) : Looks (preview s r file) := by
  refine .bind (looks_inspect _) fun present => ?_
  split
  · refine .bind (looks_inspect _) fun refused => ?_
    split
    · exact looks_pure _
    · exact looks_inspect _
  · exact looks_pure _

theorem looks_visit (s : Refusals) (r : Runner) (file : String) : Looks (visit s r true file) :=
  .bind (looks_preview s r file) fun _ => looks_pure _

theorem succeeds_commit (s : Refusals) (r : Runner) (file : String)
    (page : Except FileError Runner.Page) : Succeeds (commit s r file page) := by
  unfold commit
  split
  · refine .bind (succeeds_replace _ _ _) fun refused => ?_
    split
    · exact (looks_pure _).succeeds
    · exact (looks_pure _).succeeds
  · exact (looks_pure _).succeeds

theorem succeeds_visit (s : Refusals) (r : Runner) (dryRun : Bool) (file : String) :
    Succeeds (visit s r dryRun file) := by
  cases dryRun with
  | true => exact (looks_visit s r file).succeeds
  | false =>
    refine .bind (looks_preview s r file).succeeds fun page => ?_
    exact .bind (succeeds_commit s r file page) fun entry => (looks_pure _).succeeds

/-- A dry run only looks. -/
theorem looks_tour (s : Refusals) (r : Runner) (files : List String) :
    Looks (tour s r true files) := by
  induction files with
  | nil => exact looks_pure _
  | cons file files ih =>
    refine .bind (looks_visit s r file) fun first => ?_
    exact .bind ih fun others => looks_pure _

/-- **Dealing with files does not fail**, whatever is refused. -/
theorem succeeds_tour (s : Refusals) (r : Runner) (dryRun : Bool) (files : List String) :
    Succeeds (tour s r dryRun files) := by
  induction files with
  | nil => exact (looks_pure _).succeeds
  | cons file files ih =>
    refine .bind (succeeds_visit s r dryRun file) fun first => ?_
    exact .bind ih fun others => (looks_pure _).succeeds

/-! ## What comes of the operations -/

section Result

variable {tree : FileTree}

theorem result_load (w : Workspace) :
    (load .nothing w).result tree = (w.load tree).map (·, tree) := by
  rw [load, result_bind, result_inspect, Workspace.load]
  change (if _ then _ else _ : Work Config).result tree = _
  split
  · rw [result_bind, result_read]
    cases tree.readText w.dir w.configPath with
    | error fault => rfl
    | ok t => exact result_require _
  · rfl

theorem result_save (w : Workspace) (c : Config) :
    (save .nothing w c).result tree = (w.save tree c).map ((), ·) := result_write ..

/-- Saving comes last but for what is said about it. -/
theorem result_save_pure {α : Type} (w : Workspace) (c : Config) (a : α) :
    (save .nothing w c >>= fun _ => pure a).result tree =
      w.save tree c >>= fun saved => .ok (a, saved) := by
  rw [result_bind, result_save]
  cases w.save tree c with
  | error f => rfl
  | ok saved => rfl

theorem result_init (w : Workspace) : (init .nothing w).result tree = w.init tree := by
  rw [init, result_bind, result_inspect, Workspace.init]
  change (if _ then _ else _ : Work Bool).result tree = _
  split
  · rfl
  · rw [result_save_pure]
    cases w.save tree .default with
    | error f => rfl
    | ok saved => rfl

theorem result_addFiles (w : Workspace) (new : List String) :
    (addFiles .nothing w new).result tree = w.addFiles tree new := by
  rw [addFiles, result_bind, result_load, Workspace.addFiles]
  cases w.load tree with
  | error f => rfl
  | ok c => exact result_save_pure w _ _

theorem result_removeFiles (w : Workspace) (gone : List String) :
    (removeFiles .nothing w gone).result tree = w.removeFiles tree gone := by
  rw [removeFiles, result_bind, result_load, Workspace.removeFiles]
  cases w.load tree with
  | error f => rfl
  | ok c => exact result_save_pure w _ _

theorem result_importFiles (w : Workspace) (path : String) :
    (importFiles .nothing w path).result tree = w.importFiles tree path := by
  rw [importFiles, result_bind, result_read, Workspace.importFiles, Workspace.readList]
  cases tree.readText w.dir path with
  | error fault => rfl
  | ok t => exact result_addFiles w (FileList.parse t)

theorem result_exportConfig (w : Workspace) (path : String) (format : Format) :
    (exportConfig .nothing w path format).result tree =
      (w.exportConfig tree path format).map ((), ·) := by
  rw [exportConfig, result_bind, result_load, Workspace.exportConfig]
  cases w.load tree with
  | error f => rfl
  | ok c => exact result_write ..

theorem result_runner [PatternReader] (w : Workspace) :
    (runner .nothing w).result tree = (Runner.load w tree).map (·, tree) := by
  rw [runner, result_bind, result_load, Runner.load]
  cases w.load tree with
  | error f => rfl
  | ok c => exact result_require _

theorem result_preview (r : Runner) (file : String) :
    (preview .nothing r file).result tree = .ok (r.preview tree file, tree) := by
  rw [preview, result_bind, result_inspect]
  change (if _ then _ else _ : Work (Except FileError Runner.Page)).result tree = _
  split
  · rfl
  · rename_i habsent
    rw [Runner.preview_of_absent habsent]
    rfl

theorem result_commit (r : Runner) (file : String) (page : Except FileError Runner.Page) :
    (commit .nothing r file page).result tree =
      .ok (Runner.entry file page, Runner.commit tree page) := by
  cases page with
  | error e => rfl
  | ok p =>
    obtain ⟨location, before, category, outcome⟩ := p
    cases outcome with
    | wrapped text anchor => rfl
    | alreadyWrapped | noRegion | unbalanced => rfl

theorem result_visit (r : Runner) (dryRun : Bool) (file : String) :
    (visit .nothing r dryRun file).result tree =
      let visited := r.visit dryRun tree file
      .ok ((visited.entry, visited.log), visited.tree) := by
  rw [visit, result_bind, result_preview]
  cases dryRun with
  | true => rfl
  | false =>
    change (commit .nothing r file _ >>= _).result tree = _
    rw [result_bind, result_commit]
    rfl

/-- **If nothing is refused, dealing with files is a tour.** -/
theorem result_tour (r : Runner) (dryRun : Bool) (files : List String) :
    (tour .nothing r dryRun files).result tree =
      let toured := r.tour dryRun tree files
      .ok ((toured.entries, toured.log), toured.tree) := by
  induction files generalizing tree with
  | nil => rfl
  | cons file files ih =>
    rw [tour, result_bind, result_visit]
    change (tour .nothing r dryRun files >>= _).result _ = _
    rw [result_bind, ih]
    rfl

theorem result_runFiles (r : Runner) (dryRun : Bool) :
    (runFiles .nothing r dryRun).result tree =
      let done := r.run dryRun tree
      .ok ((done.report, done.log), done.tree) := by
  rw [runFiles, result_bind, result_tour]
  rfl

theorem run_runFiles (r : Runner) (dryRun : Bool) :
    (runFiles .nothing r dryRun).run tree =
      let done := r.run dryRun tree
      .ok (done.report, done.log) done.tree := run_of_result (result_runFiles r dryRun)

end Result

end Work

namespace Command

variable [PatternReader] (refusals : Refusals) (s : Circumstances) (w : Workspace)

/-- **A command that only looks leaves the tree as it is**, whether it fails or not. -/
theorem keepsTree_work {c : Command} (hc : c.isReadOnly = true) :
    (c.work refusals s w).KeepsTree := by
  have hload := Work.keepsTree_load refusals w
  have hrunner := Work.keepsTree_runner refusals w
  cases c with
  | run dryRun =>
    cases dryRun with
    | false => cases hc
    | true =>
      refine hrunner.bind fun r => Work.KeepsTree.bind_pure ?_
      exact .bind_pure (Work.looks_tour refusals r _).keepsTree
  | preview file =>
    refine hrunner.bind fun r => ?_
    exact .bind (Work.looks_preview refusals r file).keepsTree fun page => Work.keepsTree_require _
  | classify paths => exact hload.bind_pure
  | validate => exact hload.bind fun c => .bind_pure (Work.looks_inspect _).keepsTree
  | list => exact hload.bind fun c => .bind_pure (Work.looks_inspect _).keepsTree
  | _ => cases hc

/-- **A command that fails leaves the tree as it is.** It has looked at all that it needs before it
writes, and what comes after its last write cannot fail. -/
theorem failsClean_work (c : Command) : (c.work refusals s w).FailsClean := by
  cases c with
  | init => exact .bind_pure (Work.failsClean_init refusals w)
  | run dryRun =>
    refine .bind (Work.keepsTree_runner refusals w) fun r => Work.FailsClean.bind_pure ?_
    exact .bind_pure (Work.succeeds_tour refusals r dryRun _).failsClean
  | add files => exact .bind_pure (Work.failsClean_addFiles refusals w files)
  | remove files => exact .bind_pure (Work.failsClean_removeFiles refusals w files)
  | importList path => exact .bind_pure (Work.failsClean_importFiles refusals w path)
  | exportTo path format =>
    exact .bind_pure (Work.failsClean_exportConfig refusals w path _)
  | preview | classify | validate | list =>
    exact (keepsTree_work refusals s w rfl).failsClean

/-- **If nothing is refused, the steps come to what the command does.** -/
theorem result_work (tree : FileTree) (c : Command) :
    (c.work .nothing s w).result tree = c.performIn s w tree := by
  cases c with
  | init =>
    rw [work, Work.result_bind, Work.result_init]
    rfl
  | run dryRun =>
    rw [work, Work.result_bind, Work.result_runner, performIn, performRun]
    cases Runner.load w tree with
    | error f => rfl
    | ok r =>
      change (Work.runFiles .nothing r dryRun >>= _).result tree = _
      rw [Work.result_bind, Work.result_runFiles]
      rfl
  | preview file =>
    rw [work, Work.result_bind, Work.result_runner, performIn, performPreview]
    cases Runner.load w tree with
    | error f => rfl
    | ok r =>
      change (Work.preview .nothing r file >>= _).result tree = _
      rw [Work.result_bind, Work.result_preview]
      exact Work.result_require _
  | classify paths =>
    rw [work, Work.result_bind, Work.result_load, performIn, performClassify]
    cases w.load tree with
    | error f => rfl
    | ok c => rfl
  | validate =>
    rw [work, Work.result_bind, Work.result_load, performIn, performValidate]
    cases w.load tree with
    | error f => rfl
    | ok c => rfl
  | list =>
    rw [work, Work.result_bind, Work.result_load, performIn, performList]
    cases w.load tree with
    | error f => rfl
    | ok c => rfl
  | add files =>
    rw [work, Work.result_bind, Work.result_addFiles]
    rfl
  | remove files =>
    rw [work, Work.result_bind, Work.result_removeFiles]
    rfl
  | importList path =>
    rw [work, Work.result_bind, Work.result_importFiles]
    rfl
  | exportTo path format =>
    rw [work, Work.result_bind, Work.result_exportConfig, performIn, performExport]
    cases w.exportConfig tree path (.ofName format) with
    | error f => rfl
    | ok exported => rfl

/-- A command that writes says that it has failed by failing. -/
theorem failure_of_work {c : Command} (hc : c.isReadOnly = false) {tree after : FileTree}
    {response : Response} (h : (c.work refusals s w).run tree = .ok response after) :
    response.failure = none := by
  cases c with
  | run dryRun =>
    obtain ⟨r, looked, -, h⟩ := Work.exists_of_run_bind h
    obtain ⟨report, written, -, h⟩ := Work.exists_of_run_bind h
    cases h
    rfl
  | init | add | remove | importList | exportTo =>
    obtain ⟨a, written, -, h⟩ := Work.exists_of_run_bind h
    cases h
    rfl
  | _ => cases hc

theorem carryOut_readOnly (tree : FileTree) {c : Command} (hc : c.isReadOnly = true) :
    (c.carryOut refusals s tree).2 = tree := by
  unfold carryOut
  split
  · rfl
  · rename_i found hfound
    rcases keepsTree_work refusals s ⟨found.root, s.dir⟩ hc tree with ⟨response, h⟩ | ⟨e, h⟩
    · rw [h]
    · rw [h]

theorem carryOut_failure (tree : FileTree) {c : Command}
    (h : (c.carryOut refusals s tree).1.failure ≠ none) :
    (c.carryOut refusals s tree).2 = tree := by
  cases hc : c.isReadOnly with
  | true => exact carryOut_readOnly refusals s tree hc
  | false =>
    unfold carryOut at h ⊢
    split
    · rfl
    · rename_i found hfound
      simp only [hfound] at h
      cases hwork : (c.work refusals s ⟨found.root, s.dir⟩).run tree with
      | error e after => exact failsClean_work refusals s _ c tree e after hwork
      | ok response after =>
        rw [hwork] at h
        exact absurd (failure_of_work refusals s _ hc hwork) h

/-- Carried out by its steps, a command does what it does at once, if nothing is refused. -/
theorem carryOut_nothing (tree : FileTree) (c : Command) :
    c.carryOut .nothing s tree = c.perform s tree := by
  unfold carryOut perform
  cases Root.resolve tree s.dir s.root with
  | error f => rfl
  | ok found =>
    simp only [← result_work, Work.result]
    cases hwork : (c.work .nothing s ⟨found.root, s.dir⟩).run tree with
    | ok response after => rfl
    | error e after =>
      obtain rfl := failsClean_work .nothing s _ c tree e after hwork
      rfl

/-- **A command that fails leaves the file tree as it was, and so does one that only looks.** This
holds of every command in every tree, whatever reads and writes are refused on the way, and if none
are, the steps of the command come to what it does at once. -/
theorem tree_kept (tree : FileTree) (c : Command) :
    let done := c.carryOut refusals s tree
    (done.1.failure ≠ none → done.2 = tree) ∧ (c.isReadOnly = true → done.2 = tree) ∧
      c.carryOut .nothing s tree = c.perform s tree :=
  ⟨carryOut_failure refusals s tree, carryOut_readOnly refusals s tree, carryOut_nothing s tree c⟩

end Command

end PageShell
