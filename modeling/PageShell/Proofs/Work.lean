import PageShell.Workspace

/-!
# Work on a file tree

Work on a file tree is a sequence of steps that look at it or write to it. Steps can be refused for
reasons that the tree does not show, such as missing permissions or a full disk, and what has been
written by the time that work fails stays written.

Results:

* `FailsClean.bind`, `FailsClean.bind_succeeds`: work fails cleanly if it looks first and fails
  cleanly later, and if it fails cleanly first and cannot fail later.
* `failsClean_write`: a write fails cleanly.
* `result_bind`: what comes of work, step by step.
-/

namespace PageShell

/-- What is refused for reasons that a file tree does not show. A write that is refused has changed
nothing. -/
structure Refusals where
  read : FileTree → String → Option FileFault
  write : FileTree → String → Text → Option FileFault

namespace Refusals

/-- Nothing is refused. -/
def nothing : Refusals := ⟨fun _ _ => none, fun _ _ _ => none⟩

/-- An attempt, unless it is refused. -/
def attempt {α : Type} (refused : Option FileFault) (x : Except FileFault α) : Except FileFault α :=
  match refused with
  | some fault => .error fault
  | none => x

end Refusals

/-- Work on a file tree. What has been done to the tree stays done if the work fails later. -/
abbrev Work (α : Type) := EStateM Failure FileTree α

namespace Work

variable {α β : Type}

/-! ## Steps -/

/-- Looks at the tree. -/
def inspect (f : FileTree → α) : Work α := fun tree => .ok (f tree) tree

/-- Goes on only if nothing has failed. -/
def require (x : Except Failure α) : Work α := fun tree =>
  match x with
  | .error f => .error f tree
  | .ok a => .ok a tree

/-- Reads a text. -/
def read (s : Refusals) (dir : Location) (path : String) (wording : FileFault → Failure) :
    Work Text := fun tree =>
  match Refusals.attempt (s.read tree path) (tree.readText dir path) with
  | .error fault => .error (wording fault) tree
  | .ok t => .ok t tree

/-- Writes a text. -/
def write (s : Refusals) (dir : Location) (path : String) (t : Text)
    (wording : FileFault → Failure) : Work Unit := fun tree =>
  match Refusals.attempt (s.write tree path t) (tree.writeText dir path t) with
  | .error fault => .error (wording fault) tree
  | .ok after => .ok () after

/-- Gives the file at a location another text and says why, if that is refused. -/
def replace (s : Refusals) (path : String) (loc : Location) (t : Text) :
    Work (Option FileFault) := fun tree =>
  match s.write tree path t with
  | some fault => .ok (some fault) tree
  | none => .ok none (tree.putText loc t)

/-! ## One step after the other -/

variable {x : Work α} {f : α → Work β} {s : Refusals}

theorem run_bind (x : Work α) (f : α → Work β) (tree : FileTree) :
    (x >>= f).run tree = match x.run tree with
      | .ok a after => (f a).run after
      | .error e after => .error e after := by
  change EStateM.bind x f tree = _
  unfold EStateM.bind EStateM.run
  cases x tree <;> rfl

theorem exists_of_run_bind {b : β} {tree after : FileTree}
    (h : (x >>= f).run tree = .ok b after) :
    ∃ a mid, x.run tree = .ok a mid ∧ (f a).run mid = .ok b after := by
  rw [run_bind] at h
  cases hx : x.run tree with
  | error e mid =>
    rw [hx] at h
    cases h
  | ok a mid =>
    rw [hx] at h
    exact ⟨a, mid, rfl, h⟩

/-! ## What is left of the tree -/

/-- Work that leaves the tree as it is and does not fail. -/
def Looks (x : Work α) : Prop := ∀ tree, ∃ a, x.run tree = .ok a tree

/-- Work that leaves the tree as it is, whether it fails or not. -/
def KeepsTree (x : Work α) : Prop :=
  ∀ tree, (∃ a, x.run tree = .ok a tree) ∨ ∃ e, x.run tree = .error e tree

/-- Work that leaves the tree as it is if it fails. -/
def FailsClean (x : Work α) : Prop := ∀ tree e after, x.run tree = .error e after → after = tree

/-- Work that does not fail. -/
def Succeeds (x : Work α) : Prop := ∀ tree, ∃ a after, x.run tree = .ok a after

/-! ### Looking -/

theorem looks_pure (a : α) : Looks (pure a) := fun _ => ⟨a, rfl⟩

theorem looks_inspect (g : FileTree → α) : Looks (inspect g) := fun tree => ⟨g tree, rfl⟩

theorem Looks.bind (hx : Looks x) (hf : ∀ a, Looks (f a)) : Looks (x >>= f) := by
  intro tree
  obtain ⟨a, hx⟩ := hx tree
  rw [run_bind, hx]
  exact hf a tree

theorem Looks.keepsTree (hx : Looks x) : KeepsTree x := fun tree => .inl (hx tree)

theorem Looks.succeeds (hx : Looks x) : Succeeds x := by
  intro tree
  obtain ⟨a, hx⟩ := hx tree
  exact ⟨a, tree, hx⟩

/-! ### Failing -/

theorem keepsTree_require (result : Except Failure α) : KeepsTree (require result) := by
  intro tree
  cases result with
  | error e => exact .inr ⟨e, rfl⟩
  | ok a => exact .inl ⟨a, rfl⟩

theorem keepsTree_read (dir : Location) (path : String) (wording : FileFault → Failure) :
    KeepsTree (read s dir path wording) := by
  intro tree
  unfold EStateM.run read
  cases Refusals.attempt (s.read tree path) (tree.readText dir path) with
  | error fault => exact .inr ⟨wording fault, rfl⟩
  | ok t => exact .inl ⟨t, rfl⟩

theorem KeepsTree.bind (hx : KeepsTree x) (hf : ∀ a, KeepsTree (f a)) : KeepsTree (x >>= f) := by
  intro tree
  rw [run_bind]
  rcases hx tree with ⟨a, h⟩ | ⟨e, h⟩
  · rw [h]
    exact hf a tree
  · rw [h]
    exact .inr ⟨e, rfl⟩

theorem KeepsTree.failsClean (hx : KeepsTree x) : FailsClean x := by
  intro tree e after h
  rcases hx tree with ⟨a, hx⟩ | ⟨e', hx⟩
  · rw [hx] at h
    cases h
  · rw [hx] at h
    cases h
    rfl

/-- **Writing fails cleanly.** -/
theorem failsClean_write (dir : Location) (path : String) (t : Text)
    (wording : FileFault → Failure) : FailsClean (write s dir path t wording) := by
  intro tree e after h
  unfold EStateM.run write at h
  cases hw : Refusals.attempt (s.write tree path t) (tree.writeText dir path t) with
  | error fault =>
    rw [hw] at h
    cases h
    rfl
  | ok written =>
    rw [hw] at h
    cases h

/-- **Work that looks first and fails cleanly later fails cleanly.** -/
theorem FailsClean.bind (hx : KeepsTree x) (hf : ∀ a, FailsClean (f a)) : FailsClean (x >>= f) := by
  intro tree e after h
  rw [run_bind] at h
  rcases hx tree with ⟨a, hx⟩ | ⟨e', hx⟩
  · rw [hx] at h
    exact hf a tree e after h
  · rw [hx] at h
    cases h
    rfl

theorem Succeeds.failsClean (hx : Succeeds x) : FailsClean x := by
  intro tree e after h
  obtain ⟨a, written, hx⟩ := hx tree
  rw [hx] at h
  cases h

theorem succeeds_replace (path : String) (loc : Location) (t : Text) :
    Succeeds (replace s path loc t) := by
  intro tree
  unfold EStateM.run replace
  cases s.write tree path t with
  | some fault => exact ⟨some fault, tree, rfl⟩
  | none => exact ⟨none, tree.putText loc t, rfl⟩

/-- **Work that cannot fail later fails as cleanly as what it does first.** -/
theorem FailsClean.bind_succeeds (hx : FailsClean x) (hf : ∀ a, Succeeds (f a)) :
    FailsClean (x >>= f) := by
  intro tree e after h
  rw [run_bind] at h
  cases hrun : x.run tree with
  | error e' written =>
    rw [hrun] at h
    cases h
    exact hx tree e after hrun
  | ok a written =>
    rw [hrun] at h
    obtain ⟨b, last, hf⟩ := hf a written
    simp only [hf] at h
    cases h

theorem Succeeds.bind (hx : Succeeds x) (hf : ∀ a, Succeeds (f a)) : Succeeds (x >>= f) := by
  intro tree
  obtain ⟨a, written, hx⟩ := hx tree
  obtain ⟨b, last, hf⟩ := hf a written
  exact ⟨b, last, by rw [run_bind, hx]; exact hf⟩

/-- What is said after the last write does not matter. -/
theorem FailsClean.bind_pure {g : α → β} (hx : FailsClean x) :
    FailsClean (x >>= fun a => pure (g a)) :=
  hx.bind_succeeds fun a => (looks_pure (g a)).succeeds

theorem KeepsTree.bind_pure {g : α → β} (hx : KeepsTree x) :
    KeepsTree (x >>= fun a => pure (g a)) :=
  hx.bind fun a => (looks_pure (g a)).keepsTree

/-! ## What comes of the work -/

/-- What work gives, with the tree after it if it does not fail. -/
def result (x : Work α) (tree : FileTree) : Except Failure (α × FileTree) :=
  match x.run tree with
  | .ok a after => .ok (a, after)
  | .error e _ => .error e

variable {tree : FileTree}

theorem run_of_result {a : α} {after : FileTree} (h : x.result tree = .ok (a, after)) :
    x.run tree = .ok a after := by
  unfold result at h
  cases hx : x.run tree with
  | error e left =>
    rw [hx] at h
    cases h
  | ok b left =>
    rw [hx] at h
    cases h
    rfl

theorem result_bind (x : Work α) (f : α → Work β) :
    (x >>= f).result tree = x.result tree >>= fun done => (f done.1).result done.2 := by
  unfold result
  rw [run_bind]
  cases x.run tree with
  | ok a after => rfl
  | error e after => rfl

theorem result_inspect (g : FileTree → α) : (inspect g).result tree = .ok (g tree, tree) := rfl

theorem result_require (x : Except Failure α) :
    (require x).result tree = x.map (·, tree) := by
  cases x with
  | error e => rfl
  | ok a => rfl

theorem result_read (dir : Location) (path : String) (wording : FileFault → Failure) :
    (read .nothing dir path wording).result tree =
      ((tree.readText dir path).mapError wording).map (·, tree) := by
  simp only [result, EStateM.run, read, Refusals.nothing, Refusals.attempt]
  cases tree.readText dir path with
  | error fault => rfl
  | ok t => rfl

theorem result_write (dir : Location) (path : String) (t : Text)
    (wording : FileFault → Failure) :
    (write .nothing dir path t wording).result tree =
      ((tree.writeText dir path t).mapError wording).map ((), ·) := by
  simp only [result, EStateM.run, write, Refusals.nothing, Refusals.attempt]
  cases tree.writeText dir path t with
  | error fault => rfl
  | ok after => rfl

end Work

end PageShell
