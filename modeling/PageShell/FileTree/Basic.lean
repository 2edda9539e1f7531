import PageShell.Text.Basic

/-!
# File trees

A file tree holds directories, files and symbolic links under their locations. A location is the
list of the names on the way down from the top, which is always a directory.

Results:

* `item?_set_self`, `item?_set_of_ne`: setting an item changes what is at its location, and
  nothing else.
-/

namespace PageShell

/-- The names on the way from the top of a file tree to an item. -/
abbrev Location := List String

/-- What a file holds: a text, or bytes that are not the UTF-8 form of one. -/
inductive Content
  | text (t : Text)
  | binary (bytes : List UInt8)
  deriving DecidableEq, Repr

namespace Content

/-- What a file with the given bytes holds. -/
def ofBytes (bytes : List UInt8) : Content :=
  match String.fromUTF8? ⟨bytes.toArray⟩ with
  | some s => .text s.toList
  | none => .binary bytes

end Content

/-- An item of a file tree. Directories and files have an access mode. -/
inductive Item
  | directory (mode : Nat)
  | file (content : Content) (mode : Nat)
  | link (target : String)
  deriving DecidableEq, Repr

namespace Item

/-- The access mode of new directories. -/
def directoryMode : Nat := 0o755

/-- The access mode of new files. -/
def fileMode : Nat := 0o644

/-- A new directory. -/
def newDirectory : Item := directory directoryMode

/-- A new file. -/
def newFile (content : Content) : Item := file content fileMode

/-- Whether an item is a directory. -/
def isDirectory : Item → Bool
  | directory _ => true
  | _ => false

end Item

/-- A file tree, by the items below its top. -/
structure FileTree where
  items : List (Location × Item) := []
  deriving DecidableEq, Repr

namespace FileTree

/-- The item at a location. -/
def item? (tree : FileTree) (loc : Location) : Option Item :=
  if loc = [] then some .newDirectory else (tree.items.find? (·.1 == loc)).map (·.2)

/-- The tree with an item at a location, in place of what was there. -/
def set (tree : FileTree) (loc : Location) (item : Item) : FileTree :=
  if tree.items.any (·.1 == loc) then
    ⟨tree.items.map fun entry => if entry.1 == loc then (loc, item) else entry⟩
  else ⟨tree.items ++ [(loc, item)]⟩

/-- The tree without the item at a location. -/
def erase (tree : FileTree) (loc : Location) : FileTree :=
  ⟨tree.items.filter (·.1 != loc)⟩

theorem find?_map_set (items : List (Location × Item)) (loc loc' : Location) (item : Item) :
    (items.map fun entry => if entry.1 == loc then (loc, item) else entry).find? (·.1 == loc') =
      (items.find? (·.1 == loc')).map fun entry =>
        if entry.1 == loc then (loc, item) else entry := by
  induction items with
  | nil => rfl
  | cons entry items ih =>
    by_cases h : entry.1 = loc
    · subst h
      by_cases h' : entry.1 = loc'
      · subst h'
        simp
      · simpa [h'] using ih
    · by_cases h' : entry.1 = loc'
      · subst h'
        simp [h]
      · simpa [h, h'] using ih

theorem item?_set_self (tree : FileTree) {loc : Location} (h : loc ≠ []) (item : Item) :
    (tree.set loc item).item? loc = some item := by
  unfold set
  split
  · rename_i hany
    simp only [item?, if_neg h, find?_map_set]
    cases hf : tree.items.find? (·.1 == loc) with
    | none =>
      rw [List.find?_eq_none] at hf
      simp only [List.any_eq_true] at hany
      obtain ⟨entry, hm, he⟩ := hany
      exact absurd he (hf entry hm)
    | some entry =>
      have := List.find?_some hf
      simp_all
  · rename_i hany
    have hf : tree.items.find? (·.1 == loc) = none := by
      rw [List.find?_eq_none]
      intro entry hm he
      exact hany (List.any_eq_true.2 ⟨entry, hm, he⟩)
    simp [item?, h, List.find?_append, hf]

theorem item?_set_of_ne (tree : FileTree) {loc loc' : Location} (h : loc' ≠ loc) (item : Item) :
    (tree.set loc item).item? loc' = tree.item? loc' := by
  unfold set
  split
  · unfold item?
    split
    · rfl
    · rw [find?_map_set]
      cases hf : tree.items.find? (·.1 == loc') with
      | none => rfl
      | some entry =>
        have he : entry.1 = loc' := by simpa using List.find?_some hf
        simp [he, h]
  · unfold item?
    split
    · rfl
    · simp [List.find?_append, Ne.symm h]

end FileTree

end PageShell
