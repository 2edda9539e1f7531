import PageShell.Toml.Quoting
import PageShell.Toml.Strings

/-!
# Strings that are written are read

A text is written in one of four forms, by what it has in it. Each form has its own escapes and its
own rules for quotes in a row and for a line break at the start, and the reader of the form undoes
all of them.

Results:

* `basic?_written`, `literal?_written`, `multiBasic?_written`, `multiLiteral?_written`: each form is
  read up to its closing quotes.
* `dropBreak_leadingBreak`: the line break behind the opening quotes is not part of the text.
* `string?_quote`: every text is read as it was before it was written.
-/

namespace PageShell.Toml

/-! ## Escapes -/

theorem toNat_lt_of_isControl {c : Char} (h : isControl c = true) : c.toNat < 128 := by
  simp only [isControl, Bool.or_eq_true, Bool.and_eq_true, decide_eq_true_eq, beq_iff_eq] at h
  rcases h with ⟨⟨h, -⟩, -⟩ | rfl
  · omega
  · decide

/-- A control character is read from the two digits that write its code point. -/
theorem codePoint?_upperDigits {c : Char} (h : isControl c = true) :
    codePoint? ['0', '0', Digits.upperDigit (c.toNat / 16), Digits.upperDigit (c.toNat % 16)] =
      some c := by
  have hc := toNat_lt_of_isControl h
  rw [codePoint?, Digits.read?_lastTwo Digits.hexValue?_upperDigit (by omega), Option.bind_some,
    Digits.character?_toNat]

/-- What a basic form writes for a character other than a quote or a line feed: a letter that
stands for it, the digits of its code point, or the character. -/
theorem escape?_cases (c : Char) :
    (∃ e, unescape? e = some c ∧ escape? c = some ['\\', e]) ∨
    (isControl c = true ∧ escape? c = some ['\\', 'u', '0', '0',
      Digits.upperDigit (c.toNat / 16), Digits.upperDigit (c.toNat % 16)]) ∨
    (isControl c = false ∧ c ≠ '\\' ∧ escape? c = none) := by
  by_cases hbackslash : c = '\\'
  · exact .inl ⟨'\\', by rw [hbackslash]; rfl, by rw [hbackslash]; rfl⟩
  by_cases hbackspace : c = '\x08'
  · exact .inl ⟨'b', by rw [hbackspace]; rfl, by rw [hbackspace]; rfl⟩
  by_cases htab : c = '\t'
  · exact .inl ⟨'t', by rw [htab]; rfl, by rw [htab]; rfl⟩
  by_cases hfeed : c = '\x0c'
  · exact .inl ⟨'f', by rw [hfeed]; rfl, by rw [hfeed]; rfl⟩
  by_cases hreturn : c = '\r'
  · exact .inl ⟨'r', by rw [hreturn]; rfl, by rw [hreturn]; rfl⟩
  right
  rw [escape?, if_neg hbackslash, if_neg hbackspace, if_neg htab, if_neg hfeed, if_neg hreturn]
  cases hcontrol : isControl c with
  | true => exact .inl ⟨rfl, if_pos rfl⟩
  | false => exact .inr ⟨rfl, hbackslash, if_neg Bool.false_ne_true⟩

/-! ## Basic strings on one line -/

theorem basic?_letter {e c : Char} (h : unescape? e = some c) (rest : Text) :
    basic? ('\\' :: e :: rest) = (basic? rest).map (prepend c) := by
  unfold unescape? at h
  split at h <;> cases h <;> rfl

theorem basic?_codePoint {a b d e c : Char} (h : codePoint? [a, b, d, e] = some c) (rest : Text) :
    basic? ('\\' :: 'u' :: a :: b :: d :: e :: rest) = (basic? rest).map (prepend c) := by
  rw [basic?, h]
  rfl

theorem basic?_plain {c : Char} (h : isPlainInLine c = true) (hb : c ≠ '\\') (hq : c ≠ '"')
    (rest : Text) : basic? (c :: rest) = (basic? rest).map (prepend c) := by
  rw [basic?.eq_def]
  split <;> simp_all

theorem basic?_basicCharacter (c : Char) (rest : Text) :
    basic? (basicCharacter c ++ rest) = (basic? rest).map (prepend c) := by
  unfold basicCharacter
  by_cases hq : c = '"'
  · rw [if_pos hq, hq]
    rfl
  by_cases hn : c = '\n'
  · rw [if_neg hq, if_pos hn, hn]
    rfl
  rw [if_neg hq, if_neg hn]
  rcases escape?_cases c with ⟨e, he, hc⟩ | ⟨hcontrol, hc⟩ | ⟨hcontrol, hb, hc⟩
  · rw [hc]
    exact basic?_letter he rest
  · rw [hc]
    exact basic?_codePoint (codePoint?_upperDigits hcontrol) rest
  · rw [hc]
    exact basic?_plain (by simp [isPlainInLine, hcontrol, hn]) hb hq rest

theorem basic?_written (t rest : Text) :
    basic? (t.flatMap basicCharacter ++ '"' :: rest) = some (t, rest) := by
  induction t with
  | nil => rfl
  | cons c t ih =>
    rw [List.flatMap_cons, List.append_assoc, basic?_basicCharacter, ih]
    rfl

/-! ## Literal strings on one line -/

theorem literal?_written {t : Text} (h : ∀ c ∈ t, isPlainInLine c = true ∧ c ≠ '\'') (rest : Text) :
    literal? (t ++ '\'' :: rest) = some (t, rest) := by
  induction t with
  | nil => rfl
  | cons c t ih =>
    obtain ⟨hc, hq⟩ := h c List.mem_cons_self
    have hplain : literal? (c :: (t ++ '\'' :: rest)) =
        (literal? (t ++ '\'' :: rest)).map (prepend c) := by
      rw [literal?.eq_def]
      split <;> simp_all
    rw [List.cons_append, hplain, ih fun d hd => h d (List.mem_cons_of_mem _ hd)]
    rfl

/-! ## Basic strings on several lines -/

theorem multiBasic?_letter {e c : Char} (h : unescape? e = some c) (rest : Text) :
    multiBasic? false ('\\' :: e :: rest) = (multiBasic? false rest).map (prepend c) := by
  have hbreak : breaksLine (e :: rest) = false := by
    unfold unescape? at h
    split at h <;> cases h <;> rfl
  have hu : e ≠ 'u' ∧ e ≠ 'U' := by
    constructor <;> (rintro rfl; cases h)
  rw [multiBasic?.eq_def]
  split <;> grind

theorem multiBasic?_codePoint {a b d e c : Char} (h : codePoint? [a, b, d, e] = some c)
    (rest : Text) : multiBasic? false ('\\' :: 'u' :: a :: b :: d :: e :: rest) =
      (multiBasic? false rest).map (prepend c) := by
  rw [multiBasic?, h]
  rfl

theorem multiBasic?_plain {c : Char} (h : isPlain c = true) (hb : c ≠ '\\') (hr : c ≠ '\r')
    {rest : Text} (hq : ¬['"', '"', '"'] <+: c :: rest) :
    multiBasic? false (c :: rest) = (multiBasic? false rest).map (prepend c) := by
  rw [multiBasic?.eq_def]
  split <;> simp_all

theorem multiBasic?_escape {c : Char} (hq : c ≠ '"') (rest : Text) :
    multiBasic? false ((escape? c).getD [c] ++ rest) =
      (multiBasic? false rest).map (prepend c) := by
  rcases escape?_cases c with ⟨e, he, hc⟩ | ⟨hcontrol, hc⟩ | ⟨hcontrol, hb, hc⟩
  · rw [hc]
    exact multiBasic?_letter he rest
  · rw [hc]
    exact multiBasic?_codePoint (codePoint?_upperDigits hcontrol) rest
  · rw [hc]
    refine multiBasic?_plain (by simp [isPlain, hcontrol]) hb ?_ ?_
    · rintro rfl
      cases hcontrol
    · rintro ⟨u, hu⟩
      cases hu
      exact hq rfl

theorem multiBasic?_quote {rest : Text} (h : ¬['"', '"'] <+: rest) :
    multiBasic? false ('"' :: rest) = (multiBasic? false rest).map (prepend '"') := by
  refine multiBasic?_plain rfl (by decide) (by decide) ?_
  rw [List.prefix_cons_iff]
  rintro (h' | ⟨u, hu, hprefix⟩)
  · cases h'
  · cases hu
    exact h hprefix

theorem not_prefix_of_head? {q : Char} {t : Text} (h : t.head? ≠ some q) (u : Text) :
    ¬(q :: u) <+: t := by
  rintro ⟨v, rfl⟩
  exact h rfl

/-- Behind the three quotes that close a string up to two more belong to it. -/
theorem closingQuotes_of_head? {q : Char} {rest : Text} (h : rest.head? ≠ some q) :
    closingQuotes q rest = ([], rest) ∧ closingQuotes q (q :: rest) = ([q], rest) ∧
      closingQuotes q (q :: q :: rest) = ([q, q], rest) := by
  refine ⟨?_, ?_, ?_⟩
  · rcases rest with _ | ⟨a, _ | ⟨b, rest⟩⟩ <;> simp_all [closingQuotes]
  · rcases rest with _ | ⟨a, rest⟩ <;> simp_all [closingQuotes]
  · simp [closingQuotes]

theorem head?_escape_ne (c : Char) (hq : c ≠ '"') (u : Text) :
    ((escape? c).getD [c] ++ u).head? ≠ some '"' := by
  rcases escape?_cases c with ⟨e, -, hc⟩ | ⟨-, hc⟩ | ⟨-, -, hc⟩ <;> rw [hc]
  · simp
  · simp
  · simpa using hq

/-- What the basic form on several lines writes does not start with a quote, unless the text does
and there are fewer than two quotes before it. -/
theorem head?_multiBasicBody_ne {quotes : Nat} {c : Char} (h : c ≠ '"' ∨ 2 ≤ quotes)
    (t u : Text) : (multiBasicBody quotes (c :: t) ++ u).head? ≠ some '"' := by
  rw [multiBasicBody]
  by_cases hq : c = '"'
  · have hquotes : ¬quotes < 2 := Nat.not_lt.2 (h.resolve_left fun hne => hne hq)
    rw [if_pos hq, if_neg hquotes]
    simp
  · rw [if_neg hq, List.append_assoc]
    exact head?_escape_ne c hq _

/-- **A basic string on several lines is read up to its closing quotes.** The third quote in a row
is escaped, so that the first three that are not are those that close the string, together with up
to two quotes at the end of the text. -/
theorem multiBasic?_written {rest : Text} (hrest : rest.head? ≠ some '"') (t : Text)
    (quotes : Nat) : multiBasic? false (multiBasicBody quotes t ++ '"' :: '"' :: '"' :: rest) =
      some (t, rest) := by
  obtain ⟨hnone, hone, htwo⟩ := closingQuotes_of_head? hrest
  have hclose : ∀ u, multiBasic? false ('"' :: '"' :: '"' :: u) = some (closingQuotes '"' u) :=
    fun u => by rw [multiBasic?]
  induction t generalizing quotes with
  | nil => rw [multiBasicBody, List.nil_append, hclose, hnone]
  | cons c t ih =>
    by_cases hc : c = '"'
    · subst hc
      by_cases hquotes : quotes < 2
      · rw [multiBasicBody, if_pos rfl, if_pos hquotes, List.cons_append]
        -- the quote is read on its own, unless the text ends with it or with one more
        have hread : ¬['"', '"'] <+: multiBasicBody (quotes + 1) t ++ '"' :: '"' :: '"' :: rest →
            multiBasic? false
              ('"' :: (multiBasicBody (quotes + 1) t ++ '"' :: '"' :: '"' :: rest)) =
              some ('"' :: t, rest) := by
          intro hnot
          rw [multiBasic?_quote hnot, ih]
          rfl
        rcases t with _ | ⟨d, t⟩
        · rw [multiBasicBody, List.nil_append, hclose, hone]
        · by_cases hd : d = '"' ∧ quotes = 0
          · obtain ⟨rfl, rfl⟩ := hd
            rcases t with _ | ⟨e, t⟩
            · exact (hclose _).trans (congrArg some htwo)
            · apply hread
              rw [multiBasicBody, if_pos rfl, if_pos (by omega), List.cons_append]
              rw [List.cons_prefix_cons]
              rintro ⟨-, hprefix⟩
              exact not_prefix_of_head? (head?_multiBasicBody_ne (.inr (by omega)) t _) _ hprefix
          · have hhead : d ≠ '"' ∨ 2 ≤ quotes + 1 := by
              by_cases hdq : d = '"'
              · have hpos : quotes ≠ 0 := fun hzero => hd ⟨hdq, hzero⟩
                exact .inr (by omega)
              · exact .inl hdq
            exact hread (not_prefix_of_head? (head?_multiBasicBody_ne hhead t _) _)
      · rw [multiBasicBody, if_pos rfl, if_neg hquotes, List.cons_append, List.cons_append,
          multiBasic?_letter rfl, ih]
        rfl
    · rw [multiBasicBody, if_neg hc, List.append_assoc, multiBasic?_escape hc, ih]
      rfl

/-! ## Literal strings on several lines -/

theorem longestRun_mono (x : Char) {m n : Nat} (h : m ≤ n) (t : Text) :
    longestRun x m t ≤ longestRun x n t := by
  induction t generalizing m n with
  | nil => exact h
  | cons c t ih =>
    unfold longestRun
    split
    · exact ih (by omega)
    · exact Nat.max_le.2 ⟨Nat.le_trans h (Nat.le_max_left ..), Nat.le_max_right ..⟩

theorem le_longestRun (x : Char) (current : Nat) (t : Text) :
    current ≤ longestRun x current t := by
  induction t generalizing current with
  | nil => exact Nat.le_refl _
  | cons c t ih =>
    unfold longestRun
    split
    · exact Nat.le_trans (Nat.le_succ current) (ih (current + 1))
    · exact Nat.le_max_left ..

theorem longestRun_le_cons (x c : Char) (t : Text) :
    longestRun x 0 t ≤ longestRun x 0 (c :: t) := by
  rw [longestRun.eq_def x 0 (c :: t)]
  simp only
  split
  · exact longestRun_mono x (Nat.zero_le _) t
  · exact Nat.le_max_right ..

theorem add_le_longestRun (x : Char) (current n : Nat) (t : Text) :
    current + n ≤ longestRun x current (List.replicate n x ++ t) := by
  induction n generalizing current with
  | zero => exact le_longestRun x current t
  | succ n ih =>
    rw [List.replicate_succ, List.cons_append, longestRun, if_pos rfl]
    have := ih (current + 1)
    omega

/-- No run in a text is longer than the longest. -/
theorem le_longestRun_of_isInfix {x : Char} {n : Nat} {t : Text}
    (h : List.replicate n x <:+: t) : n ≤ longestRun x 0 t := by
  obtain ⟨s, u, rfl⟩ := h
  induction s with
  | nil =>
    have := add_le_longestRun x 0 n u
    rwa [Nat.zero_add] at this
  | cons c s ih => exact Nat.le_trans ih (longestRun_le_cons x c _)

theorem not_mem_of_longestRun {x : Char} {t : Text} (h : longestRun x 0 t = 0) : x ∉ t := by
  intro hmem
  obtain ⟨s, u, rfl⟩ := List.append_of_mem hmem
  have hrun : 1 ≤ longestRun x 0 (s ++ x :: u) :=
    le_longestRun_of_isInfix ⟨s, u, by rw [List.append_assoc]; rfl⟩
  omega

theorem multiLiteral?_plain {c : Char} (h : isPlain c = true) {rest : Text}
    (hq : ¬['\'', '\'', '\''] <+: c :: rest) :
    multiLiteral? (c :: rest) = (multiLiteral? rest).map (prepend c) := by
  have hr : c ≠ '\r' := by
    rintro rfl
    cases h
  rw [multiLiteral?.eq_def]
  split <;> simp_all

/-- **A literal string on several lines is read up to its closing quotes**, if there are no three
quotes in a row in it. -/
theorem multiLiteral?_written {rest : Text} (hrest : rest.head? ≠ some '\'') {t : Text}
    (hplain : ∀ c ∈ t, isPlain c = true) (hrun : ¬['\'', '\'', '\''] <:+: t) :
    multiLiteral? (t ++ '\'' :: '\'' :: '\'' :: rest) = some (t, rest) := by
  obtain ⟨hnone, hone, htwo⟩ := closingQuotes_of_head? hrest
  have hclose : ∀ u, multiLiteral? ('\'' :: '\'' :: '\'' :: u) = some (closingQuotes '\'' u) :=
    fun u => by rw [multiLiteral?]
  induction t with
  | nil => rw [List.nil_append, hclose, hnone]
  | cons c t ih =>
    have ih := ih (fun d hd => hplain d (List.mem_cons_of_mem _ hd)) fun h =>
      hrun (List.infix_cons h)
    have hread : ¬['\'', '\'', '\''] <+: c :: (t ++ '\'' :: '\'' :: '\'' :: rest) →
        multiLiteral? (c :: (t ++ '\'' :: '\'' :: '\'' :: rest)) = some (c :: t, rest) := by
      intro hnot
      rw [multiLiteral?_plain (hplain c List.mem_cons_self) hnot, ih]
      rfl
    rw [List.cons_append]
    by_cases hc : c = '\''
    · subst hc
      rcases t with _ | ⟨d, _ | ⟨e, t⟩⟩
      · rw [List.nil_append, hclose, hone]
      · by_cases hd : d = '\''
        · subst hd
          exact (hclose _).trans (congrArg some htwo)
        · apply hread
          rintro ⟨u, hu⟩
          cases hu
          exact hd rfl
      · apply hread
        rintro ⟨u, hu⟩
        cases hu
        exact hrun ⟨[], t, rfl⟩
    · apply hread
      refine not_prefix_of_head? ?_ _
      exact fun h => hc (Option.some.inj h)

/-! ## The line break behind the opening quotes -/

theorem dropBreak_of_head? {t : Text} (hn : t.head? ≠ some '\n') (hr : t.head? ≠ some '\r') :
    dropBreak t = t := by
  unfold dropBreak
  split <;> simp_all

/-- **The line break behind the opening quotes is not part of the text**, and a text that has none
in it does not start with one. -/
theorem dropBreak_leadingBreak {t body : Text}
    (h : '\n' ∉ t → body.head? ≠ some '\n' ∧ body.head? ≠ some '\r') :
    dropBreak (leadingBreak t ++ body) = body := by
  unfold leadingBreak
  by_cases hn : '\n' ∈ t
  · rw [if_pos (List.contains_iff_mem.2 hn)]
    rfl
  · rw [if_neg fun hc => hn (List.contains_iff_mem.1 hc), List.nil_append]
    exact dropBreak_of_head? (h hn).1 (h hn).2

theorem head?_multiBasicBody_break (t u : Text) (h : '\n' ∉ t) :
    (multiBasicBody 0 t ++ '"' :: u).head? ≠ some '\n' ∧
      (multiBasicBody 0 t ++ '"' :: u).head? ≠ some '\r' := by
  rcases t with _ | ⟨c, t⟩
  · simp [multiBasicBody]
  · have hn : c ≠ '\n' := fun hc => h (hc ▸ List.mem_cons_self)
    rw [multiBasicBody]
    by_cases hq : c = '"'
    · rw [if_pos hq, if_pos (by omega)]
      simp
    · rw [if_neg hq]
      rcases escape?_cases c with ⟨e, -, hc⟩ | ⟨-, hc⟩ | ⟨hcontrol, -, hc⟩ <;> rw [hc]
      · simp
      · simp
      · have hr : c ≠ '\r' := by
          rintro rfl
          cases hcontrol
        simp [hn, hr]

/-! ## Any string -/

/-- What a text is like that is written in a literal form. -/
theorem form_cases (t : Text) :
    form t = .basic ∨
    (form t = .literal ∧ t.any isControl = false ∧ '\n' ∉ t ∧ longestRun '\'' 0 t = 0) ∨
    form t = .multiBasic ∨
    (form t = .multiLiteral ∧ t.any isControl = false ∧ longestRun '\'' 0 t ≤ 2) := by
  simp only [form]
  split
  · exact .inl rfl
  · split
    · rename_i h
      simp only [Bool.and_eq_true, Bool.not_eq_true', beq_iff_eq] at h
      refine .inr (.inl ⟨rfl, h.1.1, ?_, h.2⟩)
      simpa using h.1.2
    · split
      · exact .inr (.inr (.inl rfl))
      · split
        · rename_i h
          simp only [Bool.and_eq_true, Bool.not_eq_true', decide_eq_true_eq] at h
          exact .inr (.inr (.inr ⟨rfl, h⟩))
        · split
          · exact .inr (.inr (.inl rfl))
          · exact .inl rfl

/-- Whether a text can stand behind a string: it does not start with a quote of either kind. -/
def EndsString (rest : Text) : Prop := rest.head? ≠ some '"' ∧ rest.head? ≠ some '\''

theorem isPlain_of_not_any {t : Text} (h : t.any isControl = false) {c : Char} (hc : c ∈ t) :
    isPlain c = true := by
  rw [isPlain, Bool.eq_false_iff.2 (List.any_eq_false.1 h c hc)]
  rfl

theorem string?_eq_basic? {u : Text} (h : ¬['"', '"'] <+: u) :
    string? ('"' :: u) = basic? u := by
  rw [string?.eq_def]
  split
  · rename_i heq
    cases heq
    exact absurd ⟨_, rfl⟩ h
  · rename_i heq
    cases heq
  · rfl

theorem string?_eq_literal? {u : Text} (h : ¬['\'', '\''] <+: u) :
    string? ('\'' :: u) = literal? u := by
  rw [string?.eq_def]
  split
  · rename_i heq
    cases heq
  · rename_i heq
    cases heq
    exact absurd ⟨_, rfl⟩ h
  · rfl

theorem string?_basic {rest : Text} (h : EndsString rest) (t : Text) :
    string? ('"' :: (t.flatMap basicCharacter ++ '"' :: rest)) = some (t, rest) := by
  rw [string?_eq_basic? ?_, basic?_written]
  rcases t with _ | ⟨c, t⟩
  · rw [List.flatMap_nil, List.nil_append, List.cons_prefix_cons]
    rintro ⟨-, hprefix⟩
    exact not_prefix_of_head? h.1 _ hprefix
  · apply not_prefix_of_head?
    rw [List.flatMap_cons, List.append_assoc, basicCharacter]
    by_cases hq : c = '"'
    · rw [if_pos hq]
      simp
    · rw [if_neg hq]
      split
      · simp
      · exact head?_escape_ne c hq _

theorem string?_literal {rest : Text} (h : EndsString rest) {t : Text}
    (hplain : ∀ c ∈ t, isPlainInLine c = true ∧ c ≠ '\'') :
    string? ('\'' :: (t ++ '\'' :: rest)) = some (t, rest) := by
  rw [string?_eq_literal? ?_, literal?_written hplain]
  rcases t with _ | ⟨c, t⟩
  · rw [List.nil_append, List.cons_prefix_cons]
    rintro ⟨-, hprefix⟩
    exact not_prefix_of_head? h.2 _ hprefix
  · apply not_prefix_of_head?
    exact fun hc => (hplain c List.mem_cons_self).2 (Option.some.inj hc)

/-- **Every text is read as it was before it was written**, whatever it has in it. -/
theorem string?_quote {rest : Text} (h : EndsString rest) (t : Text) :
    string? (quote t ++ rest) = some (t, rest) := by
  rcases form_cases t with hf | ⟨hf, hcontrol, hlines, hquotes⟩ | hf | ⟨hf, hcontrol, hquotes⟩ <;>
    simp only [quote, hf, List.cons_append, List.nil_append, List.append_assoc]
  · exact string?_basic h t
  · refine string?_literal h fun c hc => ⟨?_, ?_⟩
    · have hn : c ≠ '\n' := fun hn => hlines (hn ▸ hc)
      have hplain := isPlain_of_not_any hcontrol hc
      rw [isPlain] at hplain
      simp [isPlainInLine, hplain, hn]
    · exact fun hq => not_mem_of_longestRun hquotes (hq ▸ hc)
  · rw [string?, dropBreak_leadingBreak fun hn => head?_multiBasicBody_break t _ hn]
    exact multiBasic?_written h.1 t 0
  · have hplain : ∀ c ∈ t, isPlain c = true := fun c hc => isPlain_of_not_any hcontrol hc
    have hrun : ¬['\'', '\'', '\''] <:+: t := by
      intro hinfix
      have := le_longestRun_of_isInfix (n := 3) hinfix
      omega
    rw [string?, dropBreak_leadingBreak ?_]
    · exact multiLiteral?_written h.2 hplain hrun
    · intro hn
      rcases t with _ | ⟨c, t⟩
      · simp
      · have hc : c ≠ '\n' := fun hc => hn (hc ▸ List.mem_cons_self)
        have hr : c ≠ '\r' := by
          rintro rfl
          cases hplain '\r' List.mem_cons_self
        simp [hc, hr]

/-- What is written for a text starts with a quote. -/
theorem quote_eq_cons (t : Text) : ∃ q u, quote t = q :: u ∧ (q = '"' ∨ q = '\'') := by
  unfold quote
  cases form t with
  | basic | multiBasic => exact ⟨'"', _, rfl, .inl rfl⟩
  | literal | multiLiteral => exact ⟨'\'', _, rfl, .inr rfl⟩

end PageShell.Toml
