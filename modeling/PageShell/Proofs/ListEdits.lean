import Mathlib.Data.Finset.Card
import PageShell.Proofs.Upkeep

/-!
# Edits of the list of files, one after the other

An edit of the list of files loads the configuration, changes its list and saves it. Edits that
follow each other come to one edit: the files in between leave no trace, so that the laws of lists
in memory are laws of configuration files, byte for byte.

Results:

* `FileList.add_assoc`, `FileList.add_again`: adding is associative, and adding the same once more
  adds nothing.
* `FileList.remove_comm`, `FileList.remove_add`: removals can be exchanged, and removing what is new
  undoes adding it.
* `Workspace.exists_editable`: if a configuration can be saved at all, every list of files can, and
  what it becomes depends on nothing but that list.
* `Workspace.edits_combine`: the laws of adding and removing for configuration files.
-/

namespace PageShell

/-! ## Lists in memory -/

namespace FileList

variable {files base new xs : List String} {file other : String}

theorem insert_of_mem (h : file ∈ files) : insert files file = files := if_pos h

theorem mem_insert_iff : other ∈ insert files file ↔ other ∈ files ∨ other = file := by
  unfold insert
  split
  · rename_i hmem
    constructor
    · exact .inl
    · rintro (h | rfl)
      · exact h
      · exact hmem
  · rw [List.mem_append, List.mem_singleton]

theorem mem_add_iff : file ∈ add files new ↔ file ∈ files ∨ file ∈ new := by
  induction new generalizing files with
  | nil => simp
  | cons other new ih =>
    have hstep : add files (other :: new) = add (insert files other) new := rfl
    rw [hstep, ih, mem_insert_iff, List.mem_cons, or_assoc]

theorem add_concat (files new : List String) (file : String) :
    add files (new ++ [file]) = insert (add files new) file := add_append files new [file]

theorem add_insert (files base : List String) (file : String) :
    add files (insert base file) = insert (add files base) file := by
  by_cases h : file ∈ base
  · rw [insert_of_mem h, insert_of_mem (mem_add_iff.2 (.inr h))]
  · rw [insert, if_neg h, add_concat]

/-- **Adding is associative:** files can be put together before they are added. -/
theorem add_assoc (files base new : List String) :
    add files (add base new) = add (add files base) new := by
  induction new generalizing base with
  | nil => rfl
  | cons file new ih =>
    have hstep : ∀ fs, add fs (file :: new) = add (insert fs file) new := fun _ => rfl
    rw [hstep, hstep, ih, add_insert]

theorem add_of_forall_mem (h : ∀ file ∈ new, file ∈ files) : add files new = files := by
  have hnone : new.filter (· ∉ files) = [] := by
    rw [List.filter_eq_nil_iff]
    intro file hfile
    simpa using h file hfile
  rw [add_eq, appendNew, hnone, List.eraseDups_nil, List.append_nil]

/-- Adding the same files once more adds nothing. -/
theorem add_again (files xs : List String) : add (add files xs) xs = add files xs :=
  add_of_forall_mem fun _ hfile => mem_add_iff.2 (.inr hfile)

theorem remove_comm (files xs ys : List String) :
    remove (remove files xs) ys = remove (remove files ys) xs := List.filter_comm _ _ files

theorem filter_new (h : ∀ file ∈ xs, file ∉ files) : xs.filter (· ∉ files) = xs := by
  rw [List.filter_eq_self]
  intro file hfile
  simpa using h file hfile

/-- **Removing what is new undoes adding it.** -/
theorem remove_add (h : ∀ file ∈ xs, file ∉ files) : remove (add files xs) xs = files := by
  have hkept : files.filter (· ∉ xs) = files := filter_new fun file hfile hmem => h file hmem hfile
  have hgone : xs.eraseDups.filter (· ∉ xs) = [] := by
    rw [List.filter_eq_nil_iff]
    intro file hfile
    simpa using hfile
  rw [add_eq, appendNew, filter_new h, remove, List.filter_append, hkept, hgone, List.append_nil]

theorem add_nil_left (xs : List String) : add [] xs = xs.eraseDups := by
  rw [add_eq, appendNew, filter_new (by simp), List.nil_append]

/-- Different files that are all new are added as they are. -/
theorem add_of_nodup (hnodup : xs.Nodup) (h : ∀ file ∈ xs, file ∉ files) :
    add files xs = files ++ xs := by
  induction xs generalizing files with
  | nil => rw [add_nil, List.append_nil]
  | cons file xs ih =>
    rw [List.forall_mem_cons] at h
    rw [List.nodup_cons] at hnodup
    have hstep : add files (file :: xs) = add (files ++ [file]) xs := by
      rw [← List.singleton_append, add_append]
      exact congrArg (add · xs) (if_neg h.1)
    rw [hstep, ih hnodup.2 ?_, List.append_assoc, List.singleton_append]
    intro other hother hmem
    rcases List.mem_append.1 hmem with hmem | hmem
    · exact h.2 other hother hmem
    · exact hnodup.1 (List.mem_singleton.1 hmem ▸ hother)

/-! ## Counts -/

/-- Files that make the same of a list are counted alike. -/
theorem count_merge_congr (h : add files xs = add files new) :
    (merge files xs).count = (merge files new).count := by
  have hxs := length_add files xs
  have hnew := length_add files new
  rw [h] at hxs
  omega

theorem count_merge_append (files xs ys : List String) :
    (merge files (xs ++ ys)).count =
      (merge files xs).count + (merge (add files xs) ys).count := by
  have htogether := length_add files (xs ++ ys)
  have hxs := length_add files xs
  have hys := length_add (add files xs) ys
  rw [add_append] at htogether
  omega

theorem count_merge_again (files xs : List String) : (merge (add files xs) xs).count = 0 := by
  have hagain := length_add (add files xs) xs
  rw [add_again] at hagain
  omega

/-- Of files that are all new, as many are added as there are different ones. -/
theorem count_merge_of_new (h : ∀ file ∈ xs, file ∉ files) :
    (merge files xs).count = xs.toFinset.card := by
  have hnodup : xs.eraseDups.Nodup := add_nil_left xs ▸ nodup_add List.nodup_nil
  have hsame : xs.eraseDups.toFinset = xs.toFinset := by
    ext file
    simp
  have hlength := length_add files xs
  rw [add_eq, appendNew, filter_new h, List.length_append, ← List.toFinset_card_of_nodup hnodup,
    hsame] at hlength
  omega

end FileList

/-! ## Configuration files -/

namespace Workspace

variable {w : Workspace} {tree saved : FileTree} {c other : Config} {files : List String}
  {written : List String → FileTree}

/-- A tree holds a configuration with a list of files. If the configuration is saved with another
list, the tree becomes what `written` says of that list. -/
structure Editable (w : Workspace) (c : Config) (written : List String → FileTree)
    (tree : FileTree) (files : List String) : Prop where
  load_eq : w.load tree = .ok { c with files }
  save_eq : ∀ files', w.save tree { c with files := files' } = .ok (written files')

/-- **If a configuration can be saved, every list of files can.** What the tree becomes depends on
nothing but the list, also where other lists have been saved before. -/
theorem exists_editable (hload : w.load tree = .ok c) (hsave : w.save tree other = .ok saved) :
    ∃ written, w.Editable c written tree c.files ∧
      ∀ files, w.Editable c written (written files) files := by
  have hwrites : ∀ files, ∃ after, w.save tree { c with files } = .ok after := by
    intro files
    obtain ⟨after, -, hafter⟩ := save_save hsave { c with files }
    exact ⟨after, hafter⟩
  choose written hwritten using hwrites
  refine ⟨written, ⟨hload, hwritten⟩, fun files => ⟨load_of_save (hwritten files), ?_⟩⟩
  intro files'
  obtain ⟨after, hagain, hafter⟩ := save_save (hwritten files) { c with files := files' }
  rw [hwritten files'] at hafter
  rw [hagain, hafter]

namespace Editable

theorem addFiles_eq (h : w.Editable c written tree files) (new : List String) :
    w.addFiles tree new =
      .ok ((FileList.merge files new).count, written (FileList.add files new)) := by
  rw [← FileList.merge_files, addFiles, bind_eq_ok_iff]
  exact ⟨_, h.load_eq, bind_eq_ok_iff.2 ⟨_, h.save_eq _, rfl⟩⟩

theorem removeFiles_eq (h : w.Editable c written tree files) (gone : List String) :
    w.removeFiles tree gone =
      .ok (files.length - (FileList.remove files gone).length,
        written (FileList.remove files gone)) := by
  rw [removeFiles, bind_eq_ok_iff]
  exact ⟨_, h.load_eq, bind_eq_ok_iff.2 ⟨_, h.save_eq _, rfl⟩⟩

/-! ## Laws -/

variable (htree : w.Editable c written tree files)
  (hwritten : ∀ files, w.Editable c written (written files) files) (xs ys : List String)

include htree hwritten

/-- Adding files in two steps is adding them together. -/
theorem addFiles_addFiles :
    ∃ n m once twice, w.addFiles tree xs = .ok (n, once) ∧ w.addFiles once ys = .ok (m, twice) ∧
      w.addFiles tree (xs ++ ys) = .ok (n + m, twice) := by
  refine ⟨_, _, _, _, htree.addFiles_eq xs, (hwritten _).addFiles_eq ys, ?_⟩
  rw [htree.addFiles_eq, FileList.add_append, FileList.count_merge_append]

/-- Adding the same files once more changes nothing. -/
theorem addFiles_again :
    ∃ n once, w.addFiles tree xs = .ok (n, once) ∧ w.addFiles once xs = .ok (0, once) := by
  refine ⟨_, _, htree.addFiles_eq xs, ?_⟩
  rw [(hwritten _).addFiles_eq, FileList.add_again, FileList.count_merge_again]

/-- Removing files in two steps is removing them together, and the steps can be exchanged. -/
theorem removeFiles_removeFiles :
    ∃ n m n' m' once once' twice,
      w.removeFiles tree xs = .ok (n, once) ∧ w.removeFiles once ys = .ok (m, twice) ∧
      w.removeFiles tree (xs ++ ys) = .ok (n + m, twice) ∧
      w.removeFiles tree ys = .ok (m', once') ∧ w.removeFiles once' xs = .ok (n', twice) := by
  have hback := (hwritten (FileList.remove files ys)).removeFiles_eq xs
  rw [FileList.remove_comm] at hback
  refine ⟨_, _, _, _, _, _, _, htree.removeFiles_eq xs, (hwritten _).removeFiles_eq ys, ?_,
    htree.removeFiles_eq ys, hback⟩
  rw [htree.removeFiles_eq, ← FileList.remove_remove]
  have hxs := FileList.length_remove files xs
  have hys := FileList.length_remove (FileList.remove files xs) ys
  congr 2
  omega

/-- Removing files that were new when they were added restores the configuration. -/
theorem removeFiles_addFiles (hnew : ∀ file ∈ xs, file ∉ files) :
    ∃ once twice, w.addFiles tree xs = .ok (xs.toFinset.card, once) ∧
      w.removeFiles once xs = .ok (xs.toFinset.card, twice) ∧
      w.load twice = .ok { c with files } := by
  have hadd := htree.addFiles_eq xs
  have hremove := (hwritten (FileList.add files xs)).removeFiles_eq xs
  rw [FileList.count_merge_of_new hnew] at hadd
  rw [FileList.remove_add hnew, FileList.length_add, FileList.count_merge_of_new hnew,
    Nat.add_sub_cancel_left] at hremove
  exact ⟨_, _, hadd, hremove, (hwritten files).load_eq⟩

end Editable

/-- **Edits of a configuration file combine like edits of a list.** A workspace has a configuration,
its own or the default one, and the configuration file can be written. Then no edit fails, and:

* Adding files in two steps leaves the same tree as adding them together, and the counts add up.
* Adding the same files once more adds none and leaves the tree as it is.
* Removing files in two steps leaves the same tree as removing them together, in either order.
* Adding files that are all new and removing them again restores the configuration, and both count
  the different ones among them. -/
theorem edits_combine (hload : w.load tree = .ok c) (hsave : w.save tree other = .ok saved)
    (xs ys : List String) :
    (∃ n m once twice, w.addFiles tree xs = .ok (n, once) ∧ w.addFiles once ys = .ok (m, twice) ∧
      w.addFiles tree (xs ++ ys) = .ok (n + m, twice)) ∧
    (∃ n once, w.addFiles tree xs = .ok (n, once) ∧ w.addFiles once xs = .ok (0, once)) ∧
    (∃ n m n' m' once once' twice,
      w.removeFiles tree xs = .ok (n, once) ∧ w.removeFiles once ys = .ok (m, twice) ∧
      w.removeFiles tree (xs ++ ys) = .ok (n + m, twice) ∧
      w.removeFiles tree ys = .ok (m', once') ∧ w.removeFiles once' xs = .ok (n', twice)) ∧
    ((∀ file ∈ xs, file ∉ c.files) →
      ∃ once twice, w.addFiles tree xs = .ok (xs.toFinset.card, once) ∧
        w.removeFiles once xs = .ok (xs.toFinset.card, twice) ∧ w.load twice = .ok c) := by
  obtain ⟨written, htree, hwritten⟩ := exists_editable hload hsave
  exact ⟨htree.addFiles_addFiles hwritten xs ys, htree.addFiles_again hwritten xs,
    htree.removeFiles_removeFiles hwritten xs ys, htree.removeFiles_addFiles hwritten xs⟩

/-- In an empty workspace, three files of which two are the same are added to the default ones and
removed again. -/
theorem edits_combine_default :
    let w : Workspace := ⟨"/", []⟩
    let xs := ["b.jsx", "a.jsx", "b.jsx"]
    (w.load {} = .ok .default ∧ (∃ saved, w.save {} .default = .ok saved) ∧
      ∀ file ∈ xs, file ∉ Config.default.files) ∧
    ∃ once twice, w.addFiles {} xs = .ok (2, once) ∧ w.addFiles once xs = .ok (0, once) ∧
      w.removeFiles once xs = .ok (2, twice) ∧ w.load twice = .ok .default := by
  intro w xs
  have hload : w.load {} = .ok .default := load_at_top rfl
  obtain ⟨saved, hsave, -⟩ := exists_save_at_top {} rfl .default
  have hnew : ∀ file ∈ xs, file ∉ Config.default.files := by decide
  obtain ⟨-, ⟨n, once, hadd, hagain⟩, -, hundo⟩ := edits_combine hload hsave xs []
  obtain ⟨once', twice, hadd', hremove, hrestored⟩ := hundo hnew
  -- both parts speak of the same first step
  rw [hadd] at hadd'
  cases hadd'
  exact ⟨⟨hload, ⟨_, hsave⟩, hnew⟩, once, twice, hadd, hagain, hremove, hrestored⟩

end Workspace

end PageShell
