import Mathlib.Data.List.Nodup
import PageShell.Proofs.Issues
import PageShell.Proofs.Saving

/-!
# The upkeep of the list of files

The list of files lives in the configuration file. Every operation on it reads the file, edits the
list and writes the file again, and still the list is kept as if it were held in memory.

Results:

* `FileList.add_eq`: what adding files appends to a list.
* `Upkeep.Holds.of_carryOut`: an operation that succeeds edits the list that is held, says by how
  much its length changes and keeps the rest of the configuration.
* `Upkeep.Holds.of_lead`: so does every step of a sequence of operations.
* `Upkeep.list_kept`: after every step the configuration that is loaded is the one at the start,
  with the list that the same operations make of its list in memory.
-/

namespace PageShell

/-! ## Lists in memory -/

namespace FileList

variable {files new gone : List String}

/-- A list with the new ones of some files behind it, each once and in order. -/
def appendNew (files new : List String) : List String :=
  files ++ (new.filter (· ∉ files)).eraseDups

/-- **Adding files appends the new ones.** -/
theorem add_eq (files new : List String) : add files new = appendNew files new := by
  induction new generalizing files with
  | nil => simp [appendNew]
  | cons file new ih =>
    have hstep : add files (file :: new) = add (insert files file) new := rfl
    rw [hstep, ih, appendNew, appendNew, insert]
    split
    · rename_i hmem
      rw [List.filter_cons_of_neg (by simpa using hmem)]
    · rename_i hmem
      -- what is new behind the file is what is new before it, without the file
      have hfilter : new.filter (· ∉ files ++ [file]) =
          (new.filter (· ∉ files)).filter (fun other => !other == file) := by
        rw [List.filter_filter]
        refine List.filter_congr fun other _ => ?_
        simp [Bool.and_comm, beq_eq_decide]
      rw [hfilter, List.filter_cons_of_pos (by simpa using hmem), List.eraseDups_cons,
        List.append_assoc, List.singleton_append]

example : add ["b", "a"] ["c", "a", "c", "d"] = ["b", "a", "c", "d"] := by decide

theorem nodup_insert {file : String} (h : files.Nodup) : (insert files file).Nodup := by
  unfold insert
  split
  · exact h
  · rename_i hmem
    exact List.nodup_append.2 ⟨h, List.nodup_singleton file, by grind⟩

theorem nodup_add (h : files.Nodup) : (add files new).Nodup := by
  induction new generalizing files with
  | nil => exact h
  | cons file new ih => exact ih (nodup_insert h)

theorem nodup_remove (h : files.Nodup) : (remove files gone).Nodup :=
  h.sublist List.filter_sublist

theorem length_remove (files gone : List String) :
    files.length =
      (remove files gone).length + (files.length - (remove files gone).length) := by
  have hle : (remove files gone).length ≤ files.length := List.length_filter_le _ _
  omega

end FileList

/-! ## Saving once more -/

namespace Workspace

variable {w : Workspace} {tree saved : FileTree} {c : Config}

/-- Where a configuration has been saved, another one can be saved. -/
theorem exists_save_of_save (h : w.save tree c = .ok saved) (other : Config) :
    ∃ saved', w.save saved other = .ok saved' := by
  obtain ⟨saved', hagain, -⟩ := save_save h other
  exact ⟨saved', hagain⟩

end Workspace

/-! ## Operations -/

/-- What can be done to a configuration without an editor. -/
inductive Upkeep
  | init
  | add (new : List String)
  | remove (gone : List String)
  | importList (path : String)
  deriving DecidableEq, Repr

namespace Upkeep

/-- What an operation answers. -/
inductive Answer
  /-- Whether there was no configuration file before. -/
  | created (isNew : Bool)
  | added (count : Nat)
  | removed (count : Nat)
  deriving DecidableEq, Repr

/-- Whether an answer is right about a list before and after. -/
def Answer.Fits : Answer → List String → List String → Prop
  | created _, before, after => after = before
  | added count, before, after => after.length = before.length + count
  | removed count, before, after => before.length = after.length + count

/-- Carries out an operation in a workspace. -/
def carryOut (w : Workspace) (tree : FileTree) : Upkeep → Except Failure (Answer × FileTree)
  | init => do
    let (isNew, after) ← w.init tree
    return (.created isNew, after)
  | add new => do
    let (count, after) ← w.addFiles tree new
    return (.added count, after)
  | remove gone => do
    let (count, after) ← w.removeFiles tree gone
    return (.removed count, after)
  | importList path => do
    let (count, after) ← w.importFiles tree path
    return (.added count, after)

/-- What an operation does to a list in memory. What it imports is read from a file tree. -/
def edit (w : Workspace) (tree : FileTree) : Upkeep → List String → List String
  | init, files => files
  | add new, files => FileList.appendNew files new
  | remove gone, files => files.filter (· ∉ gone)
  | importList path, files =>
    FileList.appendNew files ((w.readList tree path).toOption.getD [])

/-- An operation that succeeds, with its answer and the trees around it. -/
structure Step where
  before : FileTree
  operation : Upkeep
  answer : Answer
  after : FileTree

/-- What a step does to a list in memory. -/
def Step.edit (w : Workspace) (s : Step) : List String → List String :=
  s.operation.edit w s.before

/-- Some steps, one after the other, lead from one tree to another. -/
def Lead (w : Workspace) : FileTree → List Step → FileTree → Prop
  | tree, [], last => tree = last
  | tree, s :: steps, last =>
    s.before = tree ∧ s.operation.carryOut w tree = .ok (s.answer, s.after) ∧
      Lead w s.after steps last

/-- A list in memory after some steps. -/
def listAfter (w : Workspace) (files : List String) (steps : List Step) : List String :=
  steps.foldl (fun files s => s.edit w files) files

/-! ## One step -/

/-- A tree holds a configuration with another list of files. The list has no duplicates, and none
are reported, if the list of the configuration has none. -/
structure Holds [PatternReader] (w : Workspace) (c : Config) (tree : FileTree)
    (files : List String) : Prop where
  load_eq : w.load tree = .ok { c with files }
  nodup : c.files.Nodup → files.Nodup
  no_duplicates : c.files.Nodup → ∀ file, .duplicateFile file ∉ w.issues tree { c with files }

section Steps

variable [PatternReader] {w : Workspace} {c : Config} {tree after last : FileTree}
  {files : List String} {steps : List Step}

theorem Holds.of_load (hload : w.load tree = .ok { c with files })
    (hnodup : c.files.Nodup → files.Nodup) : Holds w c tree files := by
  refine ⟨hload, hnodup, ?_⟩
  intro hc file hmem
  have hcount : 1 < files.count file := Config.duplicateFile_mem_issues_iff.1 hmem
  have hle : files.count file ≤ 1 := List.nodup_iff_count_le_one.1 (hnodup hc) file
  omega

namespace Holds

theorem eq_of_load {loaded : Config} (h : Holds w c tree files) (hload : w.load tree = .ok loaded) :
    loaded = { c with files } := by
  rw [h.load_eq] at hload
  exact (Except.ok.inj hload).symm

theorem of_init {isNew : Bool} (h : Holds w c tree files)
    (hinit : w.init tree = .ok (isNew, after)) : Holds w c after files := by
  unfold Workspace.init at hinit
  split at hinit
  · cases hinit
    exact h
  · rename_i habsent
    have hdefault := h.eq_of_load (Workspace.load_of_absent (Bool.eq_false_iff.2 habsent))
    have hsave : w.save tree .default = .ok after := by
      cases hs : w.save tree .default with
      | error f =>
        rw [hs] at hinit
        cases hinit
      | ok saved =>
        rw [hs] at hinit
        cases hinit
        rfl
    refine of_load ?_ h.nodup
    rw [Workspace.load_of_save hsave, ← hdefault]

theorem of_addFiles {new : List String} {count : Nat} (h : Holds w c tree files)
    (hadd : w.addFiles tree new = .ok (count, after)) :
    Holds w c after (FileList.appendNew files new) ∧
      (FileList.appendNew files new).length = files.length + count := by
  obtain ⟨loaded, hload, hadd⟩ := bind_eq_ok_iff.1 hadd
  obtain ⟨saved, hsave, heq⟩ := bind_eq_ok_iff.1 hadd
  cases heq
  obtain rfl := h.eq_of_load hload
  rw [FileList.merge_files] at hsave
  rw [← FileList.add_eq]
  refine ⟨of_load (Workspace.load_of_save hsave) ?_, FileList.length_add files new⟩
  intro hc
  exact FileList.nodup_add (h.nodup hc)

theorem of_removeFiles {gone : List String} {count : Nat} (h : Holds w c tree files)
    (hremove : w.removeFiles tree gone = .ok (count, after)) :
    Holds w c after (files.filter (· ∉ gone)) ∧
      files.length = (files.filter (· ∉ gone)).length + count := by
  obtain ⟨loaded, hload, hremove⟩ := bind_eq_ok_iff.1 hremove
  obtain ⟨saved, hsave, heq⟩ := bind_eq_ok_iff.1 hremove
  cases heq
  obtain rfl := h.eq_of_load hload
  refine ⟨of_load (Workspace.load_of_save hsave) ?_, FileList.length_remove files gone⟩
  intro hc
  exact FileList.nodup_remove (h.nodup hc)

/-- **An operation that succeeds edits the list that is held**, and answers how much shorter or
longer it gets. -/
theorem of_carryOut {operation : Upkeep} {answer : Answer} (h : Holds w c tree files)
    (hdone : operation.carryOut w tree = .ok (answer, after)) :
    Holds w c after (operation.edit w tree files) ∧
      answer.Fits files (operation.edit w tree files) := by
  cases operation with
  | init =>
    obtain ⟨⟨isNew, after'⟩, hinit, heq⟩ := bind_eq_ok_iff.1 hdone
    cases heq
    exact ⟨h.of_init hinit, rfl⟩
  | add new =>
    obtain ⟨⟨count, after'⟩, hadd, heq⟩ := bind_eq_ok_iff.1 hdone
    cases heq
    exact h.of_addFiles hadd
  | remove gone =>
    obtain ⟨⟨count, after'⟩, hremove, heq⟩ := bind_eq_ok_iff.1 hdone
    cases heq
    exact h.of_removeFiles hremove
  | importList path =>
    obtain ⟨⟨count, after'⟩, himport, heq⟩ := bind_eq_ok_iff.1 hdone
    cases heq
    obtain ⟨new, hread, hadd⟩ := bind_eq_ok_iff.1 himport
    have hnew : (w.readList tree path).toOption.getD [] = new := by
      rw [hread]
      rfl
    rw [edit, hnew]
    exact h.of_addFiles hadd

/-! ## All steps -/

/-- **Every step edits the list that is held** as it edits a list in memory. -/
theorem of_lead (h : Holds w c tree files) (hlead : Lead w tree steps last) :
    (∀ done s rest, steps = done ++ s :: rest →
      let list := listAfter w files done
      Holds w c s.before list ∧ Holds w c s.after (s.edit w list) ∧
        s.answer.Fits list (s.edit w list)) ∧
      Holds w c last (listAfter w files steps) := by
  induction steps generalizing tree files with
  | nil =>
    obtain rfl : tree = last := hlead
    refine ⟨?_, h⟩
    intro done s rest hsplit
    simp at hsplit
  | cons first steps ih =>
    obtain ⟨rfl, hdone, hlead⟩ := hlead
    obtain ⟨hafter, hfits⟩ := h.of_carryOut hdone
    obtain ⟨hsteps, hlast⟩ := ih hafter hlead
    refine ⟨?_, hlast⟩
    intro done s rest hsplit
    cases done with
    | nil =>
      cases hsplit
      exact ⟨h, hafter, hfits⟩
    | cons first' done =>
      cases hsplit
      exact hsteps done s rest rfl

end Holds

/-- **The list of files is kept as if it were held in memory.** A workspace has a configuration,
its own or the default one, and some operations succeed one after the other. Around each of them
the configuration that is loaded is the one at the start, but for its list of files, which is what
the operations so far make of the list at the start. Each answers how much longer or shorter the
list gets. If there are no duplicates at the start, there are none later, and none are reported. -/
theorem list_kept (hload : w.load tree = .ok c) (hlead : Lead w tree steps last) :
    (∀ done s rest, steps = done ++ s :: rest →
      let list := listAfter w c.files done
      Holds w c s.before list ∧ Holds w c s.after (s.edit w list) ∧
        s.answer.Fits list (s.edit w list)) ∧
      Holds w c last (listAfter w c.files steps) :=
  (Holds.of_load hload id).of_lead hlead

end Steps

/-- A workspace without a configuration file imports a list, gets the same files once more, loses
some and is made again. -/
theorem list_kept_import :
    let w : Workspace := ⟨"/", []⟩
    let tree : FileTree :=
      ⟨[(["pages.txt"], .newFile (.text "# pages\n./b\n\n c\nb\n".toList))]⟩
    ∃ steps last,
      (w.load tree = .ok .default ∧ Lead w tree steps last) ∧
        steps.map (fun s => (s.operation, s.answer)) =
          [(importList "/pages.txt", .added 2), (add ["c", "a", "a", "b"], .added 1),
            (remove ["x", "c"], .removed 1), (init, .created false)] ∧
        Holds w .default last (Config.defaultFiles ++ ["b", "a"]) := by
  intro w tree
  have hpath : tree.lookup w.dir "/pages.txt" = .ok (.item ["pages.txt"]) :=
    FileTree.lookup_of_file (by decide) (by decide) (by decide) rfl
  have hread : w.readList tree "/pages.txt" = .ok ["b", "c"] := by
    rw [Workspace.readList, FileTree.readText_of_lookup hpath rfl]
    decide
  have hload : w.load tree = .ok .default := Workspace.load_at_top (by decide)
  -- the first save makes the file, and the others go through the same path
  obtain ⟨saved₁, hsave₁, -⟩ := Workspace.exists_save_at_top tree (by decide)
    { Config.default with files := Config.defaultFiles ++ ["b", "c"] }
  obtain ⟨saved₂, hsave₂⟩ := Workspace.exists_save_of_save hsave₁
    { Config.default with files := Config.defaultFiles ++ ["b", "c", "a"] }
  obtain ⟨saved₃, hsave₃⟩ := Workspace.exists_save_of_save hsave₂
    { Config.default with files := Config.defaultFiles ++ ["b", "a"] }
  have himport : (importList "/pages.txt").carryOut w tree = .ok (.added 2, saved₁) :=
    bind_eq_ok_iff.2 ⟨(2, saved₁), bind_eq_ok_iff.2 ⟨["b", "c"], hread,
      bind_eq_ok_iff.2 ⟨_, hload, bind_eq_ok_iff.2 ⟨saved₁, hsave₁, rfl⟩⟩⟩, rfl⟩
  have hadd : (add ["c", "a", "a", "b"]).carryOut w saved₁ = .ok (.added 1, saved₂) :=
    bind_eq_ok_iff.2 ⟨(1, saved₂), bind_eq_ok_iff.2 ⟨_, Workspace.load_of_save hsave₁,
      bind_eq_ok_iff.2 ⟨saved₂, hsave₂, rfl⟩⟩, rfl⟩
  have hremove : (remove ["x", "c"]).carryOut w saved₂ = .ok (.removed 1, saved₃) :=
    bind_eq_ok_iff.2 ⟨(1, saved₃), bind_eq_ok_iff.2 ⟨_, Workspace.load_of_save hsave₂,
      bind_eq_ok_iff.2 ⟨saved₃, hsave₃, rfl⟩⟩, rfl⟩
  have hinit : init.carryOut w saved₃ = .ok (.created false, saved₃) := by
    have hread₃ := FileTree.readText_of_writeText (Workspace.save_eq_ok_iff.1 hsave₃)
    rw [carryOut, Workspace.init, if_pos (FileTree.isPresent_of_readText hread₃)]
    rfl
  have hlead : Lead w tree [⟨tree, importList "/pages.txt", .added 2, saved₁⟩,
      ⟨saved₁, add ["c", "a", "a", "b"], .added 1, saved₂⟩,
      ⟨saved₂, remove ["x", "c"], .removed 1, saved₃⟩,
      ⟨saved₃, init, .created false, saved₃⟩] saved₃ :=
    ⟨rfl, himport, rfl, hadd, rfl, hremove, rfl, hinit, rfl⟩
  refine ⟨_, saved₃, ⟨hload, hlead⟩, rfl, ?_⟩
  have hholds := (list_kept hload hlead).2
  simp only [listAfter, List.foldl_cons, List.foldl_nil, Step.edit, edit, hread] at hholds
  exact hholds

end Upkeep

end PageShell
