import PageShell.Proofs.ListFiles

/-!
# Lines that begin with `./`

A line of a list file is trimmed and looked at before `./` is taken off it, and not once more after
that. What is left is the entry, also if it is empty, begins with a blank or with another `./`, or
is a path from the top. Other lines make clean entries.

Results:

* `exists_standsOn_iff`: what can be wrong with an entry comes from behind `./` on a line.
* `empty_mem_parse_iff`, `exists_untrimmed_iff`, `exists_dotted_iff`, `exists_absolute_iff`: which
  lines make entries that are empty, have blanks around them, begin with `./` or are absolute.
* `isClean_iff`: the entries of a list file are clean exactly if no line spoils its entry.
* `clean_entries`: the entries of such a file are looked up where the lines say.
-/

namespace PageShell

open Unicode (isBlank)

/-! ## Texts without their first characters -/

namespace Text

theorem trim_cons_of_not_isBlank {c : Char} (hc : isBlank c = false) (t : Text) :
    trim (c :: t) = c :: trimEnd t := by
  rw [trim, List.dropWhile_cons_of_neg (by simp [hc]), trimEnd_cons, if_neg (by simp [hc])]

theorem length_trim_le (t : Text) : (trim t).length ≤ t.length := by
  obtain ⟨b, b', -, -, ht⟩ := exists_trim_append t
  have hlength := congrArg List.length ht
  simp only [List.length_append] at hlength
  omega

theorem trim_cons_ne {c : Char} (hc : isBlank c = true) (t : Text) : trim (c :: t) ≠ c :: t := by
  intro h
  have hle := length_trim_le t
  rw [trim, List.dropWhile_cons_of_pos hc, ← trim] at h
  rw [h, List.length_cons] at hle
  omega

/-- What is behind two characters of a trimmed text is trimmed, unless it begins with a blank. -/
theorem trim_behind {x y : Char} {t : Text} (hx : isBlank x = false) (hy : isBlank y = false)
    (h : trim (x :: y :: t) = x :: y :: t) : trim t ≠ t ↔ ∃ c rest, t = c :: rest ∧ isBlank c := by
  have hend : trimEnd t = t := by
    rw [trim_cons_of_not_isBlank hx, trimEnd_cons, if_neg (by simp [hy])] at h
    simpa using h
  cases t with
  | nil => simp [trim, trimEnd]
  | cons c rest =>
    constructor
    · intro hne
      refine ⟨c, rest, rfl, ?_⟩
      by_contra hc
      rw [Bool.not_eq_true] at hc
      rw [trim, List.dropWhile_cons_of_neg (by simp [hc])] at hne
      exact hne hend
    · rintro ⟨c', rest', heq, hc⟩
      cases heq
      exact trim_cons_ne hc rest

end Text

/-! ## Entries behind `./` -/

namespace FileList

variable {content : Text}

/-- **What can be wrong with an entry comes from behind `./`,** if it is never wrong with a trimmed
line that has no `./` in front. -/
theorem exists_standsOn_iff (content : Text) {P : Text → Text → Prop}
    (hplain : ∀ t, Text.trim t = t → t ≠ [] → ¬['.', '/'] <+: t → ¬P t t) :
    (∃ line ∈ Text.lines content, ∃ e, StandsOn e line ∧ P (Text.trim line) e.toList) ↔
      ∃ line ∈ Text.lines content, ∃ rest,
        Text.trim line = ['.', '/'] ++ rest ∧ P (Text.trim line) rest := by
  constructor
  · rintro ⟨line, hline, e, ⟨hne, -, hdot | ⟨hnot, heq⟩⟩, hP⟩
    · exact ⟨line, hline, e.toList, hdot, hP⟩
    · rw [← heq] at hP
      exact absurd hP (hplain _ (Text.trim_trim line) hne hnot)
  · rintro ⟨line, hline, rest, hrest, hP⟩
    refine ⟨line, hline, String.ofList rest, ⟨?_, ?_, .inl ?_⟩, ?_⟩
    · simp [hrest]
    · simp [hrest]
    · rw [hrest, String.toList_ofList]
    · rwa [String.toList_ofList]

theorem exists_mem_parse_iff {P : Text → Prop} :
    (∃ e ∈ parse content, P e.toList) ↔
      ∃ line ∈ Text.lines content, ∃ e, StandsOn e line ∧ P e.toList := by
  simp only [mem_parse_iff]
  constructor
  · rintro ⟨e, ⟨line, hline, he⟩, hP⟩
    exact ⟨line, hline, e, he, hP⟩
  · rintro ⟨line, hline, e, he, hP⟩
    exact ⟨e, ⟨line, hline, he⟩, hP⟩

/-- **An entry is empty** if a line is nothing but `./`. -/
theorem empty_mem_parse_iff :
    "" ∈ parse content ↔ ∃ line ∈ Text.lines content, Text.trim line = ['.', '/'] := by
  have hempty : "" ∈ parse content ↔ ∃ e ∈ parse content, e.toList = [] := by
    simp
  rw [hempty, exists_mem_parse_iff (P := (· = [])),
    exists_standsOn_iff content (P := fun _ t => t = []) fun t _ hne _ => hne]
  simp

/-- **An entry has blanks around it** if a line has one behind `./`. -/
theorem exists_untrimmed_iff :
    (∃ e ∈ parse content, Text.trim e.toList ≠ e.toList) ↔
      ∃ line ∈ Text.lines content, ∃ c ∈ Text.trim line,
        isBlank c = true ∧ ['.', '/', c] <+: Text.trim line := by
  rw [exists_mem_parse_iff (P := fun t => Text.trim t ≠ t),
    exists_standsOn_iff content (P := fun _ t => Text.trim t ≠ t) fun t ht _ _ hne => hne ht]
  refine exists_congr fun line => and_congr_right fun _ => ?_
  constructor
  · rintro ⟨rest, hrest, hne⟩
    have htrim := Text.trim_trim line
    rw [hrest] at htrim ⊢
    obtain ⟨c, rest', rfl, hc⟩ := (Text.trim_behind (by decide) (by decide) htrim).1 hne
    exact ⟨c, by simp, hc, rest', rfl⟩
  · rintro ⟨c, -, hc, rest, hrest⟩
    exact ⟨c :: rest, hrest.symm, Text.trim_cons_ne hc rest⟩

/-- **An entry begins with `./`** if a line begins with it twice. -/
theorem exists_dotted_iff :
    (∃ e ∈ parse content, ['.', '/'] <+: e.toList) ↔
      ∃ line ∈ Text.lines content, ['.', '/', '.', '/'] <+: Text.trim line := by
  rw [exists_mem_parse_iff (P := (['.', '/'] <+: ·)),
    exists_standsOn_iff content (P := fun _ t => ['.', '/'] <+: t) fun t _ _ hnot => hnot]
  refine exists_congr fun line => and_congr_right fun _ => ?_
  constructor
  · rintro ⟨rest, hrest, more, rfl⟩
    exact ⟨more, hrest.symm⟩
  · rintro ⟨more, hmore⟩
    exact ⟨['.', '/'] ++ more, hmore.symm, more, rfl⟩

/-- **An entry is absolute and the line is not** if the line has a separator behind `./`. -/
theorem exists_absolute_iff :
    (∃ line ∈ Text.lines content, ∃ e, StandsOn e line ∧
      Path.isAbsolute (String.ofList (Text.trim line)) = false ∧ Path.isAbsolute e = true) ↔
      ∃ line ∈ Text.lines content, ['.', '/', '/'] <+: Text.trim line := by
  have hplaces := exists_standsOn_iff content
    (P := fun t u => Path.isAbsolute (String.ofList t) = false ∧
      Path.isAbsolute (String.ofList u) = true) fun t _ _ _ h => by simp [h.1] at h
  simp only [String.ofList_toList] at hplaces
  rw [hplaces]
  refine exists_congr fun line => and_congr_right fun _ => ?_
  constructor
  · rintro ⟨rest, hrest, -, habsolute⟩
    obtain ⟨more, rfl⟩ : ∃ more, rest = '/' :: more := by
      simpa [Path.isAbsolute, List.head?_eq_some_iff] using habsolute
    exact ⟨more, hrest.symm⟩
  · rintro ⟨more, hmore⟩
    refine ⟨'/' :: more, hmore.symm, ?_, ?_⟩
    · simp [Path.isAbsolute, ← hmore]
    · simp [Path.isAbsolute]

/-! ## Clean entries -/

/-- What a reader of a list file counts on: no entry is empty, has blanks around it or begins with
`./`, and a path that is not absolute does not become so. -/
structure IsClean (content : Text) : Prop where
  ne_empty : ∀ e ∈ parse content, e ≠ ""
  trim_eq : ∀ e ∈ parse content, Text.trim e.toList = e.toList
  not_dotted : ∀ e ∈ parse content, ¬['.', '/'] <+: e.toList
  stays_relative : ∀ line ∈ Text.lines content, ∀ e, StandsOn e line →
    Path.isAbsolute (String.ofList (Text.trim line)) = false → Path.isAbsolute e = false

/-- A line spoils its entry by what is behind `./` on it: nothing, a blank, another `./` or
a separator. -/
def Spoils (line : Text) : Prop :=
  Text.trim line = ['.', '/'] ∨
    (∃ c ∈ Text.trim line, isBlank c = true ∧ ['.', '/', c] <+: Text.trim line) ∨
    ['.', '/', '.', '/'] <+: Text.trim line ∨ ['.', '/', '/'] <+: Text.trim line

instance (line : Text) : Decidable (Spoils line) :=
  -- a blank is looked for on the line, not among all characters
  letI : Decidable (∃ c ∈ Text.trim line, isBlank c = true ∧ ['.', '/', c] <+: Text.trim line) :=
    List.decidableBEx _ _
  inferInstanceAs (Decidable (_ ∨ _ ∨ _ ∨ _))

/-- **Entries are clean exactly if no line spoils its entry.** -/
theorem isClean_iff : IsClean content ↔ ∀ line ∈ Text.lines content, ¬Spoils line := by
  constructor
  · rintro ⟨hempty, htrim, hdotted, hrelative⟩ line hline hspoils
    rcases hspoils with hnothing | hblank | htwice | hseparator
    · exact hempty "" (empty_mem_parse_iff.2 ⟨line, hline, hnothing⟩) rfl
    · obtain ⟨e, he, hne⟩ := exists_untrimmed_iff.2 ⟨line, hline, hblank⟩
      exact hne (htrim e he)
    · obtain ⟨e, he, hdot⟩ := exists_dotted_iff.2 ⟨line, hline, htwice⟩
      exact hdotted e he hdot
    · obtain ⟨line', hline', e, he, hnot, habsolute⟩ :=
        exists_absolute_iff.2 ⟨line, hline, hseparator⟩
      rw [hrelative line' hline' e he hnot] at habsolute
      cases habsolute
  · intro h
    refine ⟨?_, ?_, ?_, ?_⟩
    · rintro e he rfl
      obtain ⟨line, hline, hnothing⟩ := empty_mem_parse_iff.1 he
      exact h line hline (.inl hnothing)
    · intro e he
      by_contra hne
      obtain ⟨line, hline, hblank⟩ := exists_untrimmed_iff.1 ⟨e, he, hne⟩
      exact h line hline (.inr (.inl hblank))
    · intro e he hdot
      obtain ⟨line, hline, htwice⟩ := exists_dotted_iff.1 ⟨e, he, hdot⟩
      exact h line hline (.inr (.inr (.inl htwice)))
    · intro line hline e he hnot
      by_contra habsolute
      rw [Bool.not_eq_false] at habsolute
      obtain ⟨line', hline', hseparator⟩ :=
        exists_absolute_iff.1 ⟨line, hline, e, he, hnot, habsolute⟩
      exact h line' hline' (.inr (.inr (.inr hseparator)))

theorem root_prefix_resolve (w : Workspace) {e : String} (h : Path.isAbsolute e = false) :
    w.root.toList <+: (w.resolve e).toList := by
  rw [Workspace.resolve, Path.join, h, Bool.false_or]
  split
  · rename_i hempty
    simp [String.isEmpty_iff.1 hempty]
  · split
    · simp
    · simp [String.append_assoc]

/-- **When a list file keeps its promises.** Its entries are clean exactly if no line spoils its
entry. Then an entry from a line that is not absolute is looked up below the root. -/
theorem clean_entries (content : Text) :
    (IsClean content ↔ ∀ line ∈ Text.lines content, ¬Spoils line) ∧
      (IsClean content → ∀ (w : Workspace), ∀ line ∈ Text.lines content, ∀ e, StandsOn e line →
        Path.isAbsolute (String.ofList (Text.trim line)) = false →
          w.root.toList <+: (w.resolve e).toList) := by
  refine ⟨isClean_iff, ?_⟩
  intro hclean w line hline e he hrelative
  exact root_prefix_resolve w (hclean.stays_relative line hline e he hrelative)

/-- A dotted line, an absolute one and a comment. -/
theorem clean_entries_three_lines :
    let content := "./b/../c \n /d\n# ./".toList
    IsClean content ∧ "/pages".toList <+: ((Workspace.mk "/pages" []).resolve "b/../c").toList := by
  intro content
  obtain ⟨hiff, hroot⟩ := clean_entries content
  have hclean : IsClean content := hiff.2 (by decide)
  have hentry : StandsOn "b/../c" "./b/../c ".toList := by
    rw [← entry?_eq_some_iff]
    decide
  exact ⟨hclean,
    hroot hclean ⟨"/pages", []⟩ "./b/../c ".toList (by decide) "b/../c" hentry (by decide)⟩

/-- Four lines, each of which spoils its entry in one way. -/
theorem not_isClean_four_lines :
    let content := "./\n././x\n./ x\n.//x".toList
    parse content = ["", "./x", " x", "/x"] ∧
      (¬∀ e ∈ parse content, e ≠ "") ∧
      (¬∀ e ∈ parse content, Text.trim e.toList = e.toList) ∧
      (¬∀ e ∈ parse content, ¬['.', '/'] <+: e.toList) ∧
      ∃ line ∈ Text.lines content, StandsOn "/x" line ∧
        Path.isAbsolute (String.ofList (Text.trim line)) = false ∧
        (Workspace.mk "/pages" []).resolve "/x" = "/x" := by
  intro content
  have hparse : parse content = ["", "./x", " x", "/x"] := by decide
  rw [hparse]
  refine ⟨rfl, by decide, by decide, by decide, ".//x".toList, by decide, ?_, by decide, by decide⟩
  rw [← entry?_eq_some_iff]
  decide

end FileList

end PageShell
