import PageShell.FileTree.Edit

/-!
# The shape of a file tree

Two trees have the same shape if they differ at most in what their files hold. Paths are followed
by directories, links and names, so they lead to the same places in trees of the same shape.

Results:

* `walk_eq`, `locate_eq`: where a path leads depends on nothing but the shape.
* `sameShape_putText`: giving a file another text keeps the shape, and with it every path.
* `item?_putText_of_ne`: it changes no other item.
-/

namespace PageShell

/-- An item without what it holds. -/
def Item.shape : Item → Item
  | file _ mode => file (.text []) mode
  | item => item

namespace FileTree

/-- Trees that have the same items, but for what files hold. -/
def SameShape (s t : FileTree) : Prop :=
  ∀ loc, (s.item? loc).map Item.shape = (t.item? loc).map Item.shape

namespace SameShape

variable {s t u : FileTree} {loc : Location}

theorem refl (s : FileTree) : SameShape s s := fun _ => rfl

theorem trans (h : SameShape s t) (h' : SameShape t u) : SameShape s u :=
  fun loc => (h loc).trans (h' loc)

/-! ## Items of the same shape -/

theorem item?_none (h : SameShape s t) (hs : s.item? loc = none) : t.item? loc = none := by
  have hloc := h loc
  rw [hs, Option.map_none] at hloc
  exact Option.map_eq_none_iff.1 hloc.symm

theorem item?_directory (h : SameShape s t) {mode : Nat}
    (hs : s.item? loc = some (.directory mode)) : t.item? loc = some (.directory mode) := by
  have hloc := h loc
  rw [hs] at hloc
  obtain ⟨item, ht, heq⟩ := Option.map_eq_some_iff.1 hloc.symm
  cases item <;> cases heq
  exact ht

theorem item?_file (h : SameShape s t) {content : Content} {mode : Nat}
    (hs : s.item? loc = some (.file content mode)) :
    ∃ content', t.item? loc = some (.file content' mode) := by
  have hloc := h loc
  rw [hs] at hloc
  obtain ⟨item, ht, heq⟩ := Option.map_eq_some_iff.1 hloc.symm
  cases item <;> cases heq
  exact ⟨_, ht⟩

theorem item?_link (h : SameShape s t) {target : String}
    (hs : s.item? loc = some (.link target)) : t.item? loc = some (.link target) := by
  have hloc := h loc
  rw [hs] at hloc
  obtain ⟨item, ht, heq⟩ := Option.map_eq_some_iff.1 hloc.symm
  cases item <;> cases heq
  exact ht

/-! ## Paths -/

/-- **Names are followed in the same way in trees of the same shape.** -/
theorem walk_eq (h : SameShape s t) (links : Nat) (dir : Location) (names : List String) :
    s.walk links dir names = t.walk links dir names := by
  fun_induction walk s links dir names with
  | case1 links dir => rw [walk_nil]
  | case2 links dir name rest hname ih => rw [walk, if_pos hname, ih]
  | case3 links dir rest hname ih => rw [walk, if_neg hname, if_pos rfl, ih]
  | case4 links dir name rest hname hup hlong =>
    rw [walk, if_neg hname, if_neg hup, if_pos hlong]
  | case5 links dir name hname hup hlong hs =>
    rw [walk, if_neg hname, if_neg hup, if_neg hlong, h.item?_none hs, if_pos rfl]
  | case6 links dir name rest hname hup hlong hs hrest =>
    rw [walk, if_neg hname, if_neg hup, if_neg hlong, h.item?_none hs, if_neg hrest]
  | case7 links dir name rest hname hup hlong mode hs ih =>
    rw [walk, if_neg hname, if_neg hup, if_neg hlong, h.item?_directory hs, ih]
  | case8 links dir name hname hup hlong content mode hs =>
    obtain ⟨content', ht⟩ := h.item?_file hs
    rw [walk, if_neg hname, if_neg hup, if_neg hlong, ht]
    exact (if_pos rfl).symm
  | case9 links dir name rest hname hup hlong content mode hs hrest =>
    obtain ⟨content', ht⟩ := h.item?_file hs
    rw [walk, if_neg hname, if_neg hup, if_neg hlong, ht]
    exact (if_neg hrest).symm
  | case10 dir name rest hname hup hlong target hs =>
    rw [walk, if_neg hname, if_neg hup, if_neg hlong, h.item?_link hs]
  | case11 dir name rest hname hup hlong target hs links ih =>
    rw [walk, if_neg hname, if_neg hup, if_neg hlong, h.item?_link hs]
    exact ih

theorem lookup_eq (h : SameShape s t) (dir : Location) (path : String) :
    s.lookup dir path = t.lookup dir path := by
  unfold lookup
  rw [h.walk_eq]

theorem locate_eq (h : SameShape s t) (dir : Location) (path : String) :
    s.locate dir path = t.locate dir path := by
  unfold locate
  rw [h.lookup_eq]

end SameShape

/-! ## Writing to a file -/

theorem item?_putText_of_ne (tree : FileTree) {loc loc' : Location} (h : loc' ≠ loc) (text : Text) :
    (tree.putText loc text).item? loc' = tree.item? loc' := by
  unfold putText putContent
  split
  · exact item?_set_of_ne tree h _
  · rfl

/-- **A file that is given another text keeps the shape of the tree.** -/
theorem sameShape_putText (tree : FileTree) (loc : Location) (text : Text) :
    SameShape tree (tree.putText loc text) := by
  intro loc'
  by_cases h : loc' = loc
  · subst h
    unfold putText putContent
    split
    · rename_i content mode hfile
      have hne : loc' ≠ [] := by
        rintro rfl
        simp [item?, Item.newDirectory] at hfile
      rw [item?_set_self tree hne, hfile]
      rfl
    · rfl
  · rw [item?_putText_of_ne tree h]

end FileTree

end PageShell
