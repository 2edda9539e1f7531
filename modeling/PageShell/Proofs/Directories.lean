import Mathlib.Data.List.Infix
import PageShell.Category

/-!
# Rules and whole directories

A rule looks for its segment between separators in a path. A path that is cut at its separators is
a list of directories with a file name behind it, and what the rule finds are the names of its
segment, side by side in that list. So a rule never matches a part of a name.

Results:

* `Text.fields_append_cons`, `Text.flatMap_fields`: what cutting does at a separator, and what
  undoes it.
* `Text.isInfix_between_iff`: what occurs between separators is a run of whole pieces that are not
  the last ones.
* `Rule.isMatch_iff_isOn`: a rule matches a path exactly if the names of its segment are
  directories of the path, one after the other.
* `classify_by_directories`: what this says about segments of one name, about backslashes and about
  the first rule that decides.
-/

namespace PageShell

/-! ## Cutting at separators -/

namespace Text

variable {isSeparator : Char → Bool} {separator : Char}

theorem fields_cons_of_separator {c : Char} (hc : isSeparator c = true) (t : Text) :
    fields isSeparator (c :: t) = [] :: fields isSeparator t := by
  rw [fields, if_pos hc]

theorem fields_cons_of_piece {c : Char} {t piece : Text} {pieces : List Text}
    (hc : isSeparator c = false) (ht : fields isSeparator t = piece :: pieces) :
    fields isSeparator (c :: t) = (c :: piece) :: pieces := by
  rw [fields, if_neg (by simp [hc]), ht]

theorem exists_fields_eq_cons (isSeparator : Char → Bool) (t : Text) :
    ∃ piece pieces, fields isSeparator t = piece :: pieces :=
  List.exists_cons_of_ne_nil (fields_ne_nil isSeparator t)

/-- A separator cuts a text in two, whatever is on its sides. -/
theorem fields_append_cons {c : Char} (hc : isSeparator c = true) (u v : Text) :
    fields isSeparator (u ++ c :: v) = fields isSeparator u ++ fields isSeparator v := by
  induction u with
  | nil => exact fields_cons_of_separator hc v
  | cons x u ih =>
    rw [List.cons_append]
    cases hx : isSeparator x with
    | true =>
      rw [fields_cons_of_separator hx, fields_cons_of_separator hx, ih, List.cons_append]
    | false =>
      obtain ⟨piece, pieces, hu⟩ := exists_fields_eq_cons isSeparator u
      rw [hu, List.cons_append] at ih
      rw [fields_cons_of_piece hx ih, fields_cons_of_piece hx hu, List.cons_append]

theorem fields_of_forall {t : Text} (h : ∀ c ∈ t, isSeparator c = false) :
    fields isSeparator t = [t] := by
  induction t with
  | nil => rfl
  | cons c t ih =>
    exact fields_cons_of_piece (h c List.mem_cons_self)
      (ih fun x hx => h x (List.mem_cons_of_mem c hx))

theorem fields_of_not_mem {t : Text} (h : separator ∉ t) : fields (· == separator) t = [t] := by
  apply fields_of_forall
  intro c hc
  rw [beq_eq_false_iff_ne]
  rintro rfl
  exact h hc

/-- No piece has a separator in it. -/
theorem not_separator_of_mem_fields {t : Text} :
    ∀ piece ∈ fields isSeparator t, ∀ c ∈ piece, isSeparator c = false := by
  induction t with
  | nil => simp [fields]
  | cons x t ih =>
    cases hx : isSeparator x with
    | true =>
      rw [fields_cons_of_separator hx]
      simpa using ih
    | false =>
      obtain ⟨piece, pieces, ht⟩ := exists_fields_eq_cons isSeparator t
      rw [ht] at ih
      rw [fields_cons_of_piece hx ht]
      simp only [List.forall_mem_cons] at ih ⊢
      exact ⟨⟨hx, ih.1⟩, ih.2⟩

/-- The pieces with a separator in front of each make up the text with one in front. -/
theorem flatMap_fields (separator : Char) (t : Text) :
    (fields (· == separator) t).flatMap (separator :: ·) = separator :: t := by
  induction t with
  | nil => rfl
  | cons c t ih =>
    by_cases hc : c = separator
    · subst hc
      rw [fields_cons_of_separator (by simp), List.flatMap_cons, ih]
      rfl
    · obtain ⟨piece, pieces, ht⟩ := exists_fields_eq_cons (· == separator) t
      rw [ht, List.flatMap_cons, List.cons_append, List.cons.injEq] at ih
      rw [fields_cons_of_piece (by simpa using hc) ht, List.flatMap_cons, ← ih.2]
      rfl

theorem dropLast_append_fields (pieces : List Text) (t : Text) :
    (pieces ++ fields isSeparator t).dropLast = pieces ++ (fields isSeparator t).dropLast :=
  List.dropLast_append_of_ne_nil (fields_ne_nil isSeparator t)

/-- **What occurs between separators is a run of whole pieces**, and the last piece is not one of
them, as no separator is behind it. -/
theorem isInfix_between_iff (separator : Char) (m t : Text) :
    separator :: m ++ [separator] <:+: separator :: t ↔
      fields (· == separator) m <:+: (fields (· == separator) t).dropLast := by
  have hcut : ∀ u v, fields (· == separator) (u ++ separator :: v) =
      fields (· == separator) u ++ fields (· == separator) v := fields_append_cons (by simp)
  constructor
  · rintro ⟨u, v, h⟩
    rw [List.cons_append, List.append_assoc, List.cons_append, List.append_assoc,
      List.singleton_append] at h
    have hpieces := hcut u (m ++ separator :: v)
    rw [h, hcut m v, fields_cons_of_separator (by simp)] at hpieces
    -- in front of the first separator of the text is the empty piece, which is dropped
    obtain ⟨piece, pieces, hu⟩ := exists_fields_eq_cons (· == separator) u
    rw [hu, List.cons_append, List.cons.injEq] at hpieces
    rw [hpieces.2, ← List.append_assoc, dropLast_append_fields]
    exact ⟨pieces, _, rfl⟩
  · rintro ⟨before, behind, h⟩
    obtain ⟨front, last, ht⟩ := (List.eq_nil_or_concat _).resolve_left
      (fields_ne_nil (· == separator) t)
    rw [List.concat_eq_append] at ht
    rw [ht, List.dropLast_concat] at h
    rw [← flatMap_fields separator t, ht, ← h, List.flatMap_append, List.flatMap_append,
      List.flatMap_append, flatMap_fields]
    -- the pieces behind, the last one included, begin with a separator
    obtain ⟨rest, hrest⟩ : ∃ rest, behind.flatMap (separator :: ·) ++
        [last].flatMap (separator :: ·) = separator :: rest := by
      cases behind with
      | nil => exact ⟨last, by simp⟩
      | cons piece behind => exact ⟨_, rfl⟩
    refine ⟨before.flatMap (separator :: ·), rest, ?_⟩
    rw [List.append_assoc _ (behind.flatMap _), hrest]
    simp

end Text

/-! ## Directories -/

namespace Rule

/-- A path has the same pieces once its separators are all alike. -/
theorem fields_normalize (t : Text) :
    Text.fields (· == '/') (normalize t) = Text.fields (fun c => c == '/' || c == '\\') t := by
  induction t with
  | nil => rfl
  | cons c t ih =>
    have hcons : normalize (c :: t) = (if c = '\\' then '/' else c) :: normalize t := rfl
    rw [hcons]
    by_cases hb : c = '\\'
    · rw [if_pos hb, Text.fields_cons_of_separator (by simp), Text.fields_cons_of_separator
        (by simp [hb]), ih]
    · rw [if_neg hb]
      by_cases hs : c = '/'
      · rw [Text.fields_cons_of_separator (by simp [hs]), Text.fields_cons_of_separator
          (by simp [hs]), ih]
      · obtain ⟨piece, pieces, ht⟩ := Text.exists_fields_eq_cons (· == '/') (normalize t)
        rw [Text.fields_cons_of_piece (by simpa using hs) ht,
          Text.fields_cons_of_piece (by simp [hs, hb]) (ih ▸ ht)]

/-- The names that a segment is made of. -/
def names (rule : Rule) : List Text := Text.fields (· == '/') rule.segment.toList

/-- A rule is on a path if the path runs through the directories that its segment names, one right
after the other. An empty segment names none. -/
def IsOn (rule : Rule) (path : String) : Prop :=
  rule.segment ≠ "" ∧ rule.names <:+: directories path

/-- **A rule matches the paths that it is on**, and never by a part of a name. -/
theorem isMatch_iff_isOn (rule : Rule) (path : String) :
    rule.isMatch path = true ↔ rule.IsOn path := by
  have hempty : (!rule.segment.toList.isEmpty) = true ↔ rule.segment ≠ "" := by
    simp
  rw [isMatch, Bool.and_eq_true, hempty, Text.occurs_iff_isInfix, Text.isInfix_between_iff,
    fields_normalize, IsOn, names, directories]

/-- A segment of one name matches if it is one of the directories. -/
theorem isMatch_iff_mem {rule : Rule} (h : '/' ∉ rule.segment.toList) (path : String) :
    rule.isMatch path = true ↔ rule.segment ≠ "" ∧ rule.segment.toList ∈ directories path := by
  rw [isMatch_iff_isOn, IsOn, names, Text.fields_of_not_mem h, List.singleton_infix_iff]

theorem isMatch_of_backslash {rule : Rule} (h : '\\' ∈ rule.segment.toList) (path : String) :
    rule.isMatch path = false := by
  rw [Bool.eq_false_iff, ne_eq, isMatch_iff_isOn]
  rintro ⟨-, hrun⟩
  -- the name with the backslash in it would be a directory
  obtain ⟨name, hname, hmem⟩ : ∃ name ∈ rule.names, '\\' ∈ name := by
    by_contra hnone
    simp only [not_exists, not_and] at hnone
    have hsegment := Text.flatMap_fields '/' rule.segment.toList
    have hmem : '\\' ∈ '/' :: rule.segment.toList := List.mem_cons_of_mem _ h
    rw [← hsegment] at hmem
    obtain ⟨name, hname, hmem⟩ := List.mem_flatMap.1 hmem
    exact hnone name hname (by simpa using hmem)
  have hdirectory := (List.dropLast_sublist _).subset (hrun.subset hname)
  have := Text.not_separator_of_mem_fields name hdirectory '\\' hmem
  simp at this

theorem directories_cons_separator {c : Char} (hc : c = '/' ∨ c = '\\') (path : String) :
    directories (String.singleton c ++ path) = [] :: directories path := by
  have hsep : (c == '/' || c == '\\') = true := by simpa using hc
  have htext : (String.singleton c ++ path).toList = c :: path.toList := by simp
  rw [directories, htext, Text.fields_cons_of_separator hsep, ← List.singleton_append,
    Text.dropLast_append_fields, List.singleton_append, ← directories]

/-- A separator in front of a path has no directory before it that a segment could name. -/
theorem isMatch_cons_separator {rule : Rule} (h : '/' ∉ rule.segment.toList) {c : Char}
    (hc : c = '/' ∨ c = '\\') (path : String) :
    rule.isMatch (String.singleton c ++ path) = rule.isMatch path := by
  rw [Bool.eq_iff_iff, isMatch_iff_mem h, isMatch_iff_mem h, directories_cons_separator hc,
    List.mem_cons, and_congr_right_iff]
  intro hne
  exact or_iff_right fun hnil => hne (by simpa using hnil)

end Rule

/-! ## Classification -/

theorem classify_of_first {before after : List Rule} {rule : Rule} {path : String}
    (hrule : rule.isMatch path = true) (hbefore : ∀ r ∈ before, r.isMatch path = false)
    (default : Category) : classify (before ++ rule :: after) default path = rule.category := by
  induction before with
  | nil => rw [List.nil_append, classify_cons, if_pos hrule]
  | cons r before ih =>
    rw [List.forall_mem_cons] at hbefore
    rw [List.cons_append, classify_cons, hbefore.1, if_neg Bool.false_ne_true, ih hbefore.2]

theorem classify_of_none {rules : List Rule} {path : String}
    (h : ∀ r ∈ rules, r.isMatch path = false) (default : Category) :
    classify rules default path = default := by
  rw [classify, List.find?_eq_none.2 (by simpa using h)]
  rfl

/-- **Rules decide by whole directories.** A rule matches a path exactly if the names of its segment
are directories of the path, one after the other. If there is only one name, it has to be one of
the directories, with or without a separator in front of the path; a segment with a backslash
matches nothing. The category of a path is that of the first rule that is on it, or else the default
one. -/
theorem classify_by_directories (path : String) :
    (∀ rule : Rule,
      (rule.isMatch path = true ↔ rule.IsOn path) ∧
      ('/' ∉ rule.segment.toList →
        (rule.isMatch path = true ↔
          rule.segment ≠ "" ∧ rule.segment.toList ∈ Rule.directories path) ∧
        ∀ c, c = '/' ∨ c = '\\' →
          rule.isMatch (String.singleton c ++ path) = rule.isMatch path) ∧
      ('\\' ∈ rule.segment.toList → rule.isMatch path = false)) ∧
    ∀ rules default,
      (∀ before rule after, rules = before ++ rule :: after → rule.IsOn path →
        (∀ r ∈ before, ¬r.IsOn path) → classify rules default path = rule.category) ∧
      ((∀ r ∈ rules, ¬r.IsOn path) → classify rules default path = default) := by
  have hoff : ∀ {rules : List Rule}, (∀ r ∈ rules, ¬r.IsOn path) →
      ∀ r ∈ rules, r.isMatch path = false := by
    intro rules h r hr
    rw [Bool.eq_false_iff, ne_eq, Rule.isMatch_iff_isOn]
    exact h r hr
  constructor
  · intro rule
    exact ⟨rule.isMatch_iff_isOn path, fun h => ⟨Rule.isMatch_iff_mem h path,
      fun c hc => Rule.isMatch_cons_separator h hc path⟩, fun h => Rule.isMatch_of_backslash h path⟩
  · intro rules default
    constructor
    · rintro before rule after rfl hrule hbefore
      exact classify_of_first ((rule.isMatch_iff_isOn path).2 hrule) (hoff hbefore) default
    · intro h
      exact classify_of_none (hoff h) default

end PageShell
