import PageShell.Text.Blank

/-!
# Lists of page files

The file list of a configuration is ordered and edited by appending and dropping entries. A list
file holds one entry a line.

Results:

* `entry?_eq_none_iff`: exactly the blank lines and the comments hold no entry.
* `add_nil`, `add_append`: adding files one after the other is adding them together.
* `remove_remove`: removals combine into one.
* `merge_files`, `length_add`: what is counted while files are added is by how much the list gets
  longer.
-/

namespace PageShell.FileList

/-! ## List files -/

/-- The entry on a line of a list file: the trimmed line without a leading `./`, or none if the
line is blank or a comment. -/
def entry? (line : Text) : Option String :=
  match Text.trim line with
  | [] => none
  | '#' :: _ => none
  | t => some (String.ofList (Text.dropStart ['.', '/'] t))

/-- The entries of a list file, each once and in the order of first appearance. -/
def parse (content : Text) : List String :=
  ((Text.lines content).filterMap entry?).eraseDups

theorem entry?_eq_none_iff (line : Text) :
    entry? line = none ↔ Text.trim line = [] ∨ (Text.trim line).head? = some '#' := by
  unfold entry?
  split
  · simp_all
  · simp_all
  · rename_i h₁ h₂
    cases h : Text.trim line with
    | nil => exact absurd h h₁
    | cons c t =>
      have : c ≠ '#' := fun hc => h₂ t (hc ▸ h)
      simp [this]

/-! ## Editing -/

/-- The list with one more file at its end, unless the file is in it already. -/
def insert (files : List String) (file : String) : List String :=
  if file ∈ files then files else files ++ [file]

/-- The list with new files at its end, in order; a file that is in the list is skipped. -/
def add (files new : List String) : List String := new.foldl insert files

/-- The list without the given files, wherever they occur in it. -/
def remove (files gone : List String) : List String := files.filter (· ∉ gone)

@[simp] theorem add_nil (files : List String) : add files [] = files := rfl

theorem add_append (files xs ys : List String) : add files (xs ++ ys) = add (add files xs) ys := by
  simp [add]

theorem remove_remove (files xs ys : List String) :
    remove (remove files xs) ys = remove files (xs ++ ys) := by
  simp [remove, List.filter_filter, Bool.and_comm]

/-! ## Counting what is added -/

/-- A list that is being added to, and the number of files that have been put at its end. -/
structure Growth where
  files : List String
  count : Nat
  deriving DecidableEq, Repr

/-- One more file at the end of the list, which is counted, unless the file is in it already. -/
def Growth.push (g : Growth) (file : String) : Growth :=
  if file ∈ g.files then g else ⟨g.files ++ [file], g.count + 1⟩

/-- The list with new files at its end, and how many of them have been put there. -/
def merge (files new : List String) : Growth := new.foldl Growth.push ⟨files, 0⟩

namespace Growth

theorem push_files (g : Growth) (file : String) : (g.push file).files = insert g.files file := by
  unfold push insert
  split <;> rfl

theorem push_count (g : Growth) (file : String) :
    (g.push file).files.length + g.count = g.files.length + (g.push file).count := by
  unfold push
  split
  · rfl
  · simp only [List.length_append, List.length_singleton]
    omega

/-- Files that are put at the end one after the other are those that are added, and the count goes
up with the length. -/
theorem foldl_push (g : Growth) (new : List String) :
    let grown := new.foldl push g
    grown.files = add g.files new ∧
      grown.files.length + g.count = g.files.length + grown.count := by
  induction new generalizing g with
  | nil => exact ⟨rfl, rfl⟩
  | cons file new ih =>
    obtain ⟨hfiles, hcount⟩ := ih (g.push file)
    have hstep : add g.files (file :: new) = add (insert g.files file) new := rfl
    have hpush := g.push_count file
    rw [push_files] at hfiles
    refine ⟨hfiles.trans hstep.symm, ?_⟩
    rw [List.foldl_cons]
    omega

end Growth

theorem merge_files (files new : List String) : (merge files new).files = add files new :=
  (Growth.foldl_push ⟨files, 0⟩ new).1

/-- **What is counted is by how much the list gets longer.** -/
theorem length_add (files new : List String) :
    (add files new).length = files.length + (merge files new).count := by
  rw [← merge_files]
  exact (Growth.foldl_push ⟨files, 0⟩ new).2

end PageShell.FileList
