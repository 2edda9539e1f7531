import PageShell.Proofs.FileShape

/-!
# Writing files

A file that is written can be read under the same path, also if the path ends in a link to a place
where there was nothing. Replacing a file through a temporary one comes to the same as giving it
another text.

Results:

* `set_set`: the last of two items set at a location counts.
* `replaceText_eq_putText`: a file replaced through a temporary one has its new text, and of the
  temporary one nothing is left.
* `walk_set_of_free`: a path to a free place leads to what is set there.
* `writeText_cases`: what writing a text does.
* `lookup_of_writeText`, `readText_of_writeText`: a path that has been written to leads to what was
  written.
* `writeText_writeText`, `writeText_again`: of two texts the second counts, and writing the same
  once more changes nothing.
-/

namespace PageShell

/-- Of two steps in a row, the second succeeds only on what the first gives. -/
theorem bind_eq_ok_iff {ε α β : Type} {x : Except ε α} {f : α → Except ε β} {b : β} :
    x >>= f = .ok b ↔ ∃ a, x = .ok a ∧ f a = .ok b := by
  cases x with
  | error e =>
    constructor
    · intro h
      cases h
    · rintro ⟨a, ha, -⟩
      cases ha
  | ok a =>
    constructor
    · intro h
      exact ⟨a, rfl, h⟩
    · rintro ⟨a', ha, h⟩
      cases ha
      exact h

/-- Another wording of what goes wrong does not change what succeeds. -/
theorem mapError_eq_ok_iff {ε ε' α : Type} {f : ε → ε'} {x : Except ε α} {a : α} :
    x.mapError f = .ok a ↔ x = .ok a := by
  cases x with
  | error e => exact ⟨nofun, nofun⟩
  | ok b =>
    constructor
    · intro h
      cases h
      rfl
    · intro h
      cases h
      rfl

namespace FileTree

variable {tree tree' : FileTree} {loc temporary : Location} {content : Content}

/-! ## Items -/

/-- An entry of a list of items after an item has been set at a location. -/
theorem setEntry_setEntry (loc : Location) (item item' : Item) (entry : Location × Item) :
    (if (if entry.1 == loc then (loc, item) else entry).1 == loc then (loc, item')
      else if entry.1 == loc then (loc, item) else entry) =
      if entry.1 == loc then (loc, item') else entry := by
  by_cases h : entry.1 == loc
  · rw [if_pos h, if_pos h, if_pos (beq_self_eq_true loc)]
  · simp only [if_neg h]

theorem setEntry_eq_self {entries : List (Location × Item)}
    (h : ¬entries.any (·.1 == loc) = true) (item : Item) :
    (entries.map fun entry => if entry.1 == loc then (loc, item) else entry) = entries := by
  have hkeep : ∀ entry ∈ entries, (if entry.1 == loc then (loc, item) else entry) = id entry := by
    intro entry hm
    rw [if_neg fun he => h (List.any_eq_true.2 ⟨entry, hm, he⟩), id]
  rw [List.map_congr_left hkeep, List.map_id]

theorem set_set (tree : FileTree) (loc : Location) (item item' : Item) :
    (tree.set loc item).set loc item' = tree.set loc item' := by
  by_cases hany : tree.items.any (·.1 == loc) = true
  · have hset : tree.set loc item =
        ⟨tree.items.map fun entry => if entry.1 == loc then (loc, item) else entry⟩ := by
      rw [set, if_pos hany]
    have hany' : (tree.set loc item).items.any (·.1 == loc) = true := by
      obtain ⟨entry, hm, he⟩ := List.any_eq_true.1 hany
      rw [hset, List.any_map, List.any_eq_true]
      exact ⟨entry, hm, by rw [Function.comp, if_pos he]; exact beq_self_eq_true loc⟩
    rw [set, if_pos hany', hset, set, if_pos hany, List.map_map]
    exact congrArg FileTree.mk
      (List.map_congr_left fun entry _ => setEntry_setEntry loc item item' entry)
  · have hset : tree.set loc item = ⟨tree.items ++ [(loc, item)]⟩ := by rw [set, if_neg hany]
    rw [hset, set, if_pos (by simp), set, if_neg hany, List.map_append, setEntry_eq_self hany]
    simp

theorem not_any_of_free (h : tree.item? temporary = none) :
    ¬tree.items.any (·.1 == temporary) = true := by
  unfold item? at h
  split at h
  · cases h
  · rw [Option.map_eq_none_iff, List.find?_eq_none] at h
    rw [List.any_eq_true]
    rintro ⟨entry, hm, he⟩
    exact h entry hm he

/-- What is set at a free location can be erased without a trace. -/
theorem erase_set_of_free (h : tree.item? temporary = none) (item : Item) :
    (tree.set temporary item).erase temporary = tree := by
  have hany := not_any_of_free h
  have hkeep : tree.items.filter (·.1 != temporary) = tree.items := by
    rw [List.filter_eq_self]
    intro entry hm
    exact bne_iff_ne.2 fun he => hany (List.any_eq_true.2 ⟨entry, hm, beq_iff_eq.2 he⟩)
  rw [set, if_neg hany, erase, List.filter_append, hkeep]
  simp

theorem ne_nil_of_item? {item : Item} (h : tree.item? loc = some item)
    (hitem : item.isDirectory = false) : loc ≠ [] := by
  rintro rfl
  rw [item?, if_pos rfl] at h
  cases h
  cases hitem

theorem textAt_of_item? {t : Text} {mode : Nat}
    (h : tree.item? loc = some (.file (.text t) mode)) : tree.textAt loc = .ok t := by
  rw [textAt, h]

/-! ## Replacing a file -/

theorem item?_putText_self {mode : Nat} (h : tree.item? loc = some (.file content mode))
    (t : Text) : (tree.putText loc t).item? loc = some (.file (.text t) mode) := by
  simp only [putText, putContent, h]
  exact item?_set_self tree (ne_nil_of_item? h rfl) _

/-- The tree with an item under another location, in place of what was there. -/
def rename (tree : FileTree) (source target : Location) : FileTree :=
  match tree.item? source with
  | some item => (tree.erase source).set target item
  | none => tree

/-- Gives a file another text through a temporary one: this is made empty for its owner alone,
gets the text and then the mode of the file, and takes the place of the file. -/
def replaceText (tree : FileTree) (loc temporary : Location) (t : Text) : FileTree :=
  match tree.item? loc with
  | some (.file _ mode) =>
    let made := tree.set temporary (.file (.text []) 0o600)
    let written := made.set temporary (.file (.text t) 0o600)
    (written.set temporary (.file (.text t) mode)).rename temporary loc
  | _ => tree

/-- **A file replaced through a temporary one** has its new text and its old mode, and of the
temporary file nothing is left. -/
theorem replaceText_eq_putText (h : tree.item? temporary = none) (loc : Location) (t : Text) :
    tree.replaceText loc temporary t = tree.putText loc t := by
  have hne : temporary ≠ [] := by
    rintro rfl
    cases h
  unfold replaceText putText putContent
  cases tree.item? loc with
  | none => rfl
  | some item =>
    cases item with
    | file content mode =>
      simp only [set_set, rename, item?_set_self tree hne, erase_set_of_free h]
    | directory | link => rfl

/-! ## Paths to what has been written -/

theorem item?_of_walk_free {links : Nat} {dir : Location} {names : List String}
    (h : tree.walk links dir names = .ok (.free loc)) : tree.item? loc = none := by
  fun_induction walk tree links dir names with
  | case1 | case4 | case6 | case8 | case9 | case10 => cases h
  | case2 _ _ _ _ _ ih => exact ih h
  | case3 _ _ _ _ ih => exact ih h
  | case5 _ _ _ _ _ _ hnone =>
    cases h
    exact hnone
  | case7 _ _ _ _ _ _ _ _ _ ih => exact ih h
  | case11 _ _ _ _ _ _ _ _ _ ih => exact ih h

/-- **A path to a free place leads to what is set there.** -/
theorem walk_set_of_free {links : Nat} {dir : Location} {names : List String}
    (h : tree.walk links dir names = .ok (.free loc)) (content : Content) (mode : Nat) :
    (tree.set loc (.file content mode)).walk links dir names = .ok (.item loc) := by
  have hfree := item?_of_walk_free h
  -- what stands on the way to the free place is not the free place
  have hway : ∀ {loc' : Location} {item : Item}, tree.item? loc' = some item →
      (tree.set loc (.file content mode)).item? loc' = some item := by
    intro loc' item hitem
    rw [item?_set_of_ne tree ?_, hitem]
    rintro rfl
    rw [hfree] at hitem
    cases hitem
  fun_induction walk tree links dir names with
  | case1 | case4 | case6 | case8 | case9 | case10 => cases h
  | case2 links dir name rest hname ih => rw [walk, if_pos hname, ih h]
  | case3 links dir rest hname ih => rw [walk, if_neg hname, if_pos rfl, ih h]
  | case5 links dir name hname hup hlong hnone =>
    cases h
    rw [walk, if_neg hname, if_neg hup, if_neg hlong, item?_set_self tree (by simp)]
    exact if_pos rfl
  | case7 links dir name rest hname hup hlong mode' hdir ih =>
    rw [walk, if_neg hname, if_neg hup, if_neg hlong, hway hdir]
    exact ih h
  | case11 dir name rest hname hup hlong target hlink links ih =>
    rw [walk, if_neg hname, if_neg hup, if_neg hlong, hway hlink]
    exact ih h

theorem lookup_eq_free_iff {dir : Location} {path : String} :
    tree.lookup dir path = .ok (.free loc) ↔
      '\x00' ∉ path.toList ∧ path ≠ "" ∧ ¬path.utf8ByteSize > pathLimit ∧
        tree.walk linkLimit (if Path.isAbsolute path then [] else dir) (Path.names path) =
          .ok (.free loc) := by
  unfold lookup
  grind

theorem lookup_set_of_free {dir : Location} {path : String}
    (h : tree.lookup dir path = .ok (.free loc)) (content : Content) (mode : Nat) :
    (tree.set loc (.file content mode)).lookup dir path = .ok (.item loc) := by
  obtain ⟨hnul, hempty, hlong, hwalk⟩ := lookup_eq_free_iff.1 h
  rw [lookup, if_neg hnul, if_neg hempty, if_neg hlong, walk_set_of_free hwalk]

theorem item?_of_lookup_free {dir : Location} {path : String}
    (h : tree.lookup dir path = .ok (.free loc)) : tree.item? loc = none :=
  item?_of_walk_free (lookup_eq_free_iff.1 h).2.2.2

/-! ## Writing a text -/

variable {dir : Location} {path : String} {t : Text}

/-- Writing to a free place makes a file there. -/
theorem writeText_of_free (hslash : Path.endsInSlash path = false)
    (h : tree.lookup dir path = .ok (.free loc)) (t : Text) :
    tree.writeText dir path t = .ok (tree.set loc (.newFile (.text t))) := by
  rw [writeText, write, if_neg (Bool.eq_false_iff.1 hslash), h]
  rfl

/-- Writing to a file gives it the text and keeps its mode. -/
theorem writeText_of_item {mode : Nat} (hslash : Path.endsInSlash path = false)
    (h : tree.lookup dir path = .ok (.item loc))
    (hitem : tree.item? loc = some (.file content mode)) (t : Text) :
    tree.writeText dir path t = .ok (tree.set loc (.file (.text t) mode)) := by
  rw [writeText, write, if_neg (Bool.eq_false_iff.1 hslash), bind_eq_ok_iff]
  refine ⟨.item loc, h, ?_⟩
  simp only [hitem]
  rfl

/-- **What writing a text does:** it makes a file in a free place, or gives a file the text. Which
of the two, and where, does not depend on the text. -/
theorem writeText_cases (h : tree.writeText dir path t = .ok tree') :
    Path.endsInSlash path = false ∧
      ∃ loc mode, (∀ t', tree.writeText dir path t' = .ok (tree.set loc (.file (.text t') mode))) ∧
        (tree.lookup dir path = .ok (.free loc) ∨
          tree.lookup dir path = .ok (.item loc) ∧
            ∃ content, tree.item? loc = some (.file content mode)) := by
  unfold writeText write at h
  split at h
  · obtain ⟨place, -, h⟩ := bind_eq_ok_iff.1 h
    cases place <;> cases h
  · rename_i hslash
    replace hslash : Path.endsInSlash path = false := Bool.eq_false_iff.2 hslash
    obtain ⟨place, hplace, h⟩ := bind_eq_ok_iff.1 h
    refine ⟨hslash, ?_⟩
    cases place with
    | free loc => exact ⟨loc, Item.fileMode, writeText_of_free hslash hplace, .inl hplace⟩
    | item loc =>
      simp only at h
      split at h
      · rename_i content mode hfile
        exact ⟨loc, mode, writeText_of_item hslash hplace hfile, .inr ⟨hplace, content, hfile⟩⟩
      · cases h

/-- A path of one name is followed from the top. -/
theorem lookup_eq_walk_of_name {name : String}
    (hnames : Path.names path = [name] ∨ Path.names path = ["", name])
    (hpath : '\x00' ∉ path.toList ∧ path ≠ "" ∧ ¬path.utf8ByteSize > pathLimit) :
    tree.lookup [] path = tree.walk linkLimit [] [name] := by
  rw [lookup, if_neg hpath.1, if_neg hpath.2.1, if_neg hpath.2.2, ite_self]
  rcases hnames with h | h
  · rw [h]
  · rw [h, walk, if_pos (.inl rfl)]

/-- A name that nothing at the top has leads to a free place. -/
theorem lookup_of_name {name : String}
    (hnames : Path.names path = [name] ∨ Path.names path = ["", name])
    (hpath : '\x00' ∉ path.toList ∧ path ≠ "" ∧ ¬path.utf8ByteSize > pathLimit)
    (hname : ¬(name = "" ∨ name = ".") ∧ name ≠ ".." ∧ ¬name.utf8ByteSize > nameLimit)
    (hfree : tree.item? [name] = none) : tree.lookup [] path = .ok (.free [name]) := by
  rw [lookup_eq_walk_of_name hnames hpath, walk, if_neg hname.1, if_neg hname.2.1,
    if_neg hname.2.2, List.nil_append, hfree]
  exact if_pos rfl

/-- A name that a file at the top has leads to that file. -/
theorem lookup_of_file {name : String} {mode : Nat}
    (hnames : Path.names path = [name] ∨ Path.names path = ["", name])
    (hpath : '\x00' ∉ path.toList ∧ path ≠ "" ∧ ¬path.utf8ByteSize > pathLimit)
    (hname : ¬(name = "" ∨ name = ".") ∧ name ≠ ".." ∧ ¬name.utf8ByteSize > nameLimit)
    (hfile : tree.item? [name] = some (.file content mode)) :
    tree.lookup [] path = .ok (.item [name]) := by
  rw [lookup_eq_walk_of_name hnames hpath, walk, if_neg hname.1, if_neg hname.2.1,
    if_neg hname.2.2, List.nil_append, hfile]
  exact if_pos rfl

/-- The path that a text has been written to leads to the file that holds it, and every other text
would have been written to the same file. -/
theorem lookup_of_writeText (h : tree.writeText dir path t = .ok tree') :
    ∃ loc mode, (∀ t', tree.writeText dir path t' = .ok (tree.set loc (.file (.text t') mode))) ∧
      tree'.lookup dir path = .ok (.item loc) ∧ tree'.item? loc = some (.file (.text t) mode) := by
  obtain ⟨-, loc, mode, hwrites, hplace⟩ := writeText_cases h
  obtain rfl : tree' = tree.set loc (.file (.text t) mode) :=
    Except.ok.inj (h.symm.trans (hwrites t))
  refine ⟨loc, mode, hwrites, ?_⟩
  rcases hplace with hfree | ⟨hitem, content, hfile⟩
  · have hne : loc ≠ [] := by
      rintro rfl
      cases item?_of_lookup_free hfree
    exact ⟨lookup_set_of_free hfree _ _, item?_set_self tree hne _⟩
  · have hput : tree.putText loc t = tree.set loc (.file (.text t) mode) := by
      simp only [putText, putContent, hfile]
    refine ⟨?_, item?_set_self tree (ne_nil_of_item? hfile rfl) _⟩
    rw [← hput, ← (sameShape_putText tree loc t).lookup_eq, hitem]

/-- A path that leads to a file with a text is read as that text. -/
theorem readText_of_lookup {mode : Nat} (hlookup : tree.lookup dir path = .ok (.item loc))
    (hitem : tree.item? loc = some (.file (.text t) mode)) : tree.readText dir path = .ok t := by
  have hlocate : tree.locate dir path = .ok loc := by rw [locate, hlookup]
  rw [readText, hlocate]
  exact textAt_of_item? hitem

/-- **What has been written under a path is read under it.** -/
theorem readText_of_writeText (h : tree.writeText dir path t = .ok tree') :
    tree'.readText dir path = .ok t := by
  obtain ⟨loc, mode, -, hlookup, hitem⟩ := lookup_of_writeText h
  exact readText_of_lookup hlookup hitem

/-- What can be read is there. -/
theorem isPresent_of_readText (h : tree.readText dir path = .ok t) :
    tree.isPresent dir path = true := by
  obtain ⟨loc, hlocate, -⟩ := bind_eq_ok_iff.1 h
  rw [isPresent, hlocate]
  rfl

theorem isPresent_of_free (h : tree.lookup dir path = .ok (.free loc)) :
    tree.isPresent dir path = false := by
  rw [isPresent, locate, h]
  rfl

/-- **Of two texts written under a path the second counts**, as if the first had not been
written. -/
theorem writeText_writeText (h : tree.writeText dir path t = .ok tree') (t' : Text) :
    ∃ tree'', tree'.writeText dir path t' = .ok tree'' ∧
      tree.writeText dir path t' = .ok tree'' := by
  obtain ⟨hslash, -⟩ := writeText_cases h
  obtain ⟨loc, mode, hwrites, hlookup, hitem⟩ := lookup_of_writeText h
  have htree : tree' = tree.set loc (.file (.text t) mode) :=
    Except.ok.inj (h.symm.trans (hwrites t))
  refine ⟨_, ?_, hwrites t'⟩
  rw [writeText_of_item hslash hlookup hitem, htree, set_set]

/-- **Writing the same text once more changes nothing.** -/
theorem writeText_again (h : tree.writeText dir path t = .ok tree') :
    tree'.writeText dir path t = .ok tree' := by
  obtain ⟨tree'', hagain, hwrite⟩ := writeText_writeText h t
  obtain rfl : tree' = tree'' := Except.ok.inj (h.symm.trans hwrite)
  exact hagain

end FileTree

end PageShell
