import Mathlib.Data.List.DropRight
import Mathlib.Data.List.Forall2
import PageShell.Json.Reader
import PageShell.Json.Writer

/-!
# JSON that is written is read

A character of a string is written as itself, as a letter behind a backslash or as the digits of its
code point, and each way has one reading. Blanks in front of a value are skipped, so that it does
not matter how far a document is indented.

Results:

* `stringBody?_written`: a string is read as it was before it was written.
* `ReadsAs.list`, `ReadsAs.record`: a list is read if its items are, and a record if its fields are.
* `read?_write`: a document that is written is read.
-/

namespace PageShell.Json

/-! ## Strings -/

/-- A string that has been read, with one more character in front. -/
def prepend (c : Char) (string : Text × Text) : Text × Text := (c :: string.1, string.2)

/-- What is written for a character: a letter that stands for it, the digits of its code point, or
the character. -/
theorem escape_cases (c : Char) :
    (∃ e, unescape? e = some c ∧ escape c = ['\\', e]) ∨
    (c.toNat < 0x20 ∧
      escape c = ['\\', 'u', '0', '0', hexDigit (c.toNat / 16), hexDigit (c.toNat % 16)]) ∨
    (0x20 ≤ c.toNat ∧ c ≠ '"' ∧ c ≠ '\\' ∧ escape c = [c]) := by
  by_cases hquote : c = '"'
  · exact .inl ⟨'"', by rw [hquote]; rfl, by rw [hquote]; rfl⟩
  by_cases hbackslash : c = '\\'
  · exact .inl ⟨'\\', by rw [hbackslash]; rfl, by rw [hbackslash]; rfl⟩
  by_cases hbackspace : c = '\x08'
  · exact .inl ⟨'b', by rw [hbackspace]; rfl, by rw [hbackspace]; rfl⟩
  by_cases htab : c = '\t'
  · exact .inl ⟨'t', by rw [htab]; rfl, by rw [htab]; rfl⟩
  by_cases hline : c = '\n'
  · exact .inl ⟨'n', by rw [hline]; rfl, by rw [hline]; rfl⟩
  by_cases hfeed : c = '\x0c'
  · exact .inl ⟨'f', by rw [hfeed]; rfl, by rw [hfeed]; rfl⟩
  by_cases hreturn : c = '\r'
  · exact .inl ⟨'r', by rw [hreturn]; rfl, by rw [hreturn]; rfl⟩
  right
  by_cases hcontrol : c.toNat < 0x20
  · left
    refine ⟨hcontrol, ?_⟩
    rw [escape, if_neg hquote, if_neg hbackslash, if_neg hbackspace, if_neg htab, if_neg hline,
      if_neg hfeed, if_neg hreturn, if_pos hcontrol]
  · right
    have hplain := Nat.not_lt.1 hcontrol
    exact ⟨hplain, hquote, hbackslash, escape_eq_self hquote hbackslash hplain⟩

theorem stringBody?_letter {e c : Char} (h : unescape? e = some c) (rest : Text) :
    stringBody? ('\\' :: e :: rest) = (stringBody? rest).map (prepend c) := by
  have hu : e ≠ 'u' := by
    rintro rfl
    cases h
  rw [stringBody?, h]
  · cases stringBody? rest <;> rfl
  · intro a b c d rest' heq _
    exact hu heq

theorem stringBody?_codePoint {c : Char} (h : c.toNat < 0x20) (rest : Text) :
    stringBody? ('\\' :: 'u' :: '0' :: '0' :: hexDigit (c.toNat / 16) :: hexDigit (c.toNat % 16) ::
      rest) = (stringBody? rest).map (prepend c) := by
  have hlow : ¬(0xD800 ≤ c.toNat ∧ c.toNat < 0xDC00) := by omega
  have hhigh : ¬(0xDC00 ≤ c.toNat ∧ c.toNat < 0xE000) := by omega
  rw [stringBody?, Digits.read?_lastTwo Digits.hexValue?_hexDigit (by omega)]
  simp only [Option.bind_eq_bind, Option.bind_some, if_neg hlow, if_neg hhigh, Char.ofNat_toNat]
  cases stringBody? rest <;> rfl

theorem stringBody?_plain {c : Char} (h : 0x20 ≤ c.toNat) (hq : c ≠ '"') (hb : c ≠ '\\')
    (rest : Text) : stringBody? (c :: rest) = (stringBody? rest).map (prepend c) := by
  rw [stringBody?.eq_def]
  split
  · simp_all
  · simp_all
  · simp_all
  · simp_all
  · rename_i heq
    cases heq
    rw [if_neg (Nat.not_lt.2 h)]
    rfl

theorem stringBody?_escape (c : Char) (rest : Text) :
    stringBody? (escape c ++ rest) = (stringBody? rest).map (prepend c) := by
  rcases escape_cases c with ⟨e, he, hc⟩ | ⟨hcontrol, hc⟩ | ⟨hplain, hq, hb, hc⟩
  · rw [hc]
    exact stringBody?_letter he rest
  · rw [hc]
    exact stringBody?_codePoint hcontrol rest
  · rw [hc]
    exact stringBody?_plain hplain hq hb rest

/-- **A string is read as it was before it was written.** -/
theorem stringBody?_written (t rest : Text) :
    stringBody? (t.flatMap escape ++ '"' :: rest) = some (t, rest) := by
  induction t with
  | nil => rfl
  | cons c t ih =>
    rw [List.flatMap_cons, List.append_assoc, stringBody?_escape, ih]
    rfl

/-! ## Blanks -/

theorem skipBlanks_newLine (level : Nat) (t : Text) :
    skipBlanks (newLine level ++ t) = skipBlanks t := by
  apply List.dropWhile_append_of_pos
  intro c hc
  rcases List.mem_cons.1 hc with rfl | hc
  · rfl
  · rw [List.eq_of_mem_replicate hc]
    rfl

theorem skipBlanks_skipBlanks (t : Text) : skipBlanks (skipBlanks t) = skipBlanks t :=
  List.dropWhile_idempotent isBlank t

/-- A value is read behind any blanks. -/
theorem value?_congr {t u : Text} (h : skipBlanks t = skipBlanks u) (fuel : Nat) :
    value? fuel t = value? fuel u := by
  cases fuel with
  | zero => rfl
  | succ fuel => rw [value?, value?, h]

theorem items?_congr {t u : Text} (h : skipBlanks t = skipBlanks u) (fuel : Nat) :
    items? fuel t = items? fuel u := by
  cases fuel with
  | zero => rfl
  | succ fuel => rw [items?, items?, value?_congr h]

theorem fields?_congr {t u : Text} (h : skipBlanks t = skipBlanks u) (fuel : Nat) :
    fields? fuel t = fields? fuel u := by
  cases fuel with
  | zero => rfl
  | succ fuel => rw [fields?, fields?, quoted?, quoted?, h]

/-! ## Values -/

theorem value?_quote {fuel : Nat} (h : 0 < fuel) (t rest : Text) :
    value? fuel (quote t ++ rest) = some (.text (String.ofList t), rest) := by
  obtain ⟨fuel, rfl⟩ := Nat.exists_eq_add_one.2 h
  have hbody := stringBody?_written t rest
  simp [quote, value?, skipBlanks, isBlank, hbody]

/-- No value begins with a bracket that closes a list. -/
theorem value?_bracket (fuel : Nat) (t : Text) : value? fuel (']' :: t) = none := by
  cases fuel <;> rfl

theorem value?_list {fuel : Nat} {t rest : Text} {items : List Data}
    (h : items? fuel t = some (items, rest)) :
    value? (fuel + 1) ('[' :: t) = some (.list items, rest) := by
  have hopen : skipBlanks ('[' :: t) = '[' :: t := rfl
  rw [← items?_congr (skipBlanks_skipBlanks t)] at h
  simp only [value?, hopen]
  split
  · rename_i t' ht
    rw [ht] at h
    cases fuel with
    | zero => cases h
    | succ fuel =>
      rw [items?, value?_bracket] at h
      cases h
  · rw [h]
    rfl

theorem value?_record {fuel : Nat} {t rest : Text} {fields : List (String × Data)}
    (h : fields? fuel t = some (fields, rest)) :
    value? (fuel + 1) ('\x7b' :: t) = some (.record fields, rest) := by
  have hopen : skipBlanks ('\x7b' :: t) = '\x7b' :: t := rfl
  rw [← fields?_congr (skipBlanks_skipBlanks t)] at h
  simp only [value?, hopen]
  split
  · rename_i t' ht
    rw [ht] at h
    cases fuel with
    | zero => cases h
    | succ fuel => cases h
  · rw [h]
    rfl

/-! ## Values that are written -/

/-- Wherever the first value is written, the second one is read. -/
def ReadsAs (d d' : Data) : Prop :=
  ∀ level fuel rest, (writeAt level d).length < fuel →
    value? fuel (writeAt level d ++ rest) = some (d', rest)

/-- Fields of one name, of which the second is read wherever the first is written. -/
def FieldReadsAs : String × Data → String × Data → Prop
  | (name, d), (name', d') => name' = name ∧ ReadsAs d d'

theorem readsAs_boolean (b : Bool) : ReadsAs (.boolean b) (.boolean b) := by
  intro level fuel rest h
  obtain ⟨fuel, rfl⟩ := Nat.exists_eq_add_one_of_ne_zero (Nat.ne_zero_of_lt h)
  cases b <;> rfl

theorem readsAs_text (s : String) : ReadsAs (.text s) (.text s) := by
  intro level fuel rest h
  rw [writeAt, value?_quote (Nat.zero_lt_of_lt h), String.ofList_toList]

theorem readsAs_character (c : Char) : ReadsAs (.character c) (.text (String.singleton c)) := by
  intro level fuel rest h
  rw [writeAt, value?_quote (Nat.zero_lt_of_lt h)]
  rfl

/-! ## Lists -/

section Lists

variable {item item' : Data} {items items' : List Data} {level fuel : Nat}

theorem items?_last (hitem : ReadsAs item item') (h : (writeAt level item).length < fuel)
    (outer : Nat) (rest : Text) :
    items? (fuel + 1) (newLine level ++ (writeAt level item ++ (newLine outer ++ ']' :: rest))) =
      some ([item'], rest) := by
  rw [items?, value?_congr (skipBlanks_newLine level _), hitem level fuel _ h]
  simp only [Option.bind_eq_bind, Option.bind_some, skipBlanks_newLine]
  rfl

theorem items?_next (hitem : ReadsAs item item') (h : (writeAt level item).length < fuel)
    {t rest : Text} (hothers : items? fuel t = some (items', rest)) :
    items? (fuel + 1) (newLine level ++ (writeAt level item ++ ',' :: t)) =
      some (item' :: items', rest) := by
  have hcomma : skipBlanks (',' :: t) = ',' :: t := rfl
  rw [items?, value?_congr (skipBlanks_newLine level _), hitem level fuel _ h]
  simp only [Option.bind_eq_bind, Option.bind_some, hcomma, hothers]
  rfl

/-- Items are read one after the other up to the bracket behind them. -/
theorem items?_written (hitems : List.Forall₂ ReadsAs items items') (hitem : ReadsAs item item')
    (h : (writeAt level item).length + (writeItems level items).length + 1 < fuel) (outer : Nat)
    (rest : Text) :
    items? fuel (newLine level ++ (writeAt level item ++ (writeItems level items ++
      (newLine outer ++ ']' :: rest)))) = some (item' :: items', rest) := by
  obtain ⟨fuel, rfl⟩ := Nat.exists_eq_add_one_of_ne_zero (Nat.ne_zero_of_lt h)
  induction hitems generalizing item item' fuel with
  | nil => exact items?_last hitem (by omega) outer rest
  | cons hnext hothers ih =>
    simp only [writeItems, List.length_append, List.length_cons] at h
    obtain ⟨fuel, rfl⟩ : ∃ n, fuel = n + 1 := Nat.exists_eq_add_one_of_ne_zero (by omega)
    simp only [writeItems, List.append_assoc, List.cons_append]
    exact items?_next hitem (by omega) (ih hnext fuel (by omega))

/-- **A list is read if its items are.** -/
theorem ReadsAs.list (h : List.Forall₂ ReadsAs items items') :
    ReadsAs (.list items) (.list items') := by
  intro level fuel rest hfuel
  obtain ⟨fuel, rfl⟩ := Nat.exists_eq_add_one_of_ne_zero (Nat.ne_zero_of_lt hfuel)
  cases h with
  | nil => rfl
  | cons hitem hothers =>
    simp only [writeAt, List.length_cons, List.length_append] at hfuel
    simp only [writeAt, List.cons_append, List.append_assoc, List.nil_append]
    exact value?_list (items?_written hothers hitem (by omega) level rest)

end Lists

/-! ## Records -/

section Records

variable {name : String} {value value' : Data} {fields fields' : List (String × Data)}
variable {level fuel : Nat}

theorem quoted?_quote (level : Nat) (t rest : Text) :
    quoted? (newLine level ++ (quote t ++ rest)) = some (t, rest) := by
  have hquote : quote t ++ rest = '"' :: (t.flatMap escape ++ '"' :: rest) := by simp [quote]
  rw [quoted?, skipBlanks_newLine, hquote]
  exact stringBody?_written t rest

theorem fields?_last (hvalue : ReadsAs value value') (h : (writeAt level value).length < fuel)
    (outer : Nat) (rest : Text) :
    fields? (fuel + 1) (newLine level ++ (quote name.toList ++ ':' :: ' ' ::
      (writeAt level value ++ (newLine outer ++ '\x7d' :: rest)))) =
        some ([(name, value')], rest) := by
  have hblank : ∀ t, skipBlanks (' ' :: t) = skipBlanks t := fun _ => rfl
  rw [fields?, quoted?_quote]
  change (value? fuel (' ' :: (writeAt level value ++ _)) >>= _) = _
  rw [value?_congr (hblank _), hvalue level fuel _ h, String.ofList_toList]
  simp only [Option.bind_eq_bind, Option.bind_some, skipBlanks_newLine]
  rfl

theorem fields?_next (hvalue : ReadsAs value value') (h : (writeAt level value).length < fuel)
    {t rest : Text} (hothers : fields? fuel t = some (fields', rest)) :
    fields? (fuel + 1) (newLine level ++ (quote name.toList ++ ':' :: ' ' ::
      (writeAt level value ++ ',' :: t))) = some ((name, value') :: fields', rest) := by
  have hblank : ∀ t, skipBlanks (' ' :: t) = skipBlanks t := fun _ => rfl
  have hcomma : skipBlanks (',' :: t) = ',' :: t := rfl
  rw [fields?, quoted?_quote]
  change (value? fuel (' ' :: (writeAt level value ++ _)) >>= _) = _
  rw [value?_congr (hblank _), hvalue level fuel _ h, String.ofList_toList]
  simp only [Option.bind_eq_bind, Option.bind_some, hcomma, hothers]
  rfl

/-- Fields are read one after the other up to the brace behind them. -/
theorem fields?_written (hfields : List.Forall₂ FieldReadsAs fields fields')
    (hvalue : ReadsAs value value')
    (h : (writeAt level value).length + (writeFields level fields).length + 1 < fuel) (outer : Nat)
    (rest : Text) :
    fields? fuel (newLine level ++ (quote name.toList ++ ':' :: ' ' :: (writeAt level value ++
      (writeFields level fields ++ (newLine outer ++ '\x7d' :: rest))))) =
        some ((name, value') :: fields', rest) := by
  obtain ⟨fuel, rfl⟩ := Nat.exists_eq_add_one_of_ne_zero (Nat.ne_zero_of_lt h)
  induction hfields generalizing name value value' fuel with
  | nil => exact fields?_last hvalue (by omega) outer rest
  | @cons next next' others others' hnext hothers ih =>
    obtain ⟨nextName, nextValue⟩ := next
    obtain ⟨_, nextValue'⟩ := next'
    obtain ⟨rfl, hnext⟩ := hnext
    simp only [writeFields, List.length_append, List.length_cons] at h
    obtain ⟨fuel, rfl⟩ : ∃ n, fuel = n + 1 := Nat.exists_eq_add_one_of_ne_zero (by omega)
    simp only [writeFields, List.append_assoc, List.cons_append, List.nil_append]
    exact fields?_next hvalue (by omega) (ih hnext fuel (by omega))

/-- **A record is read if its fields are.** -/
theorem ReadsAs.record (h : List.Forall₂ FieldReadsAs fields fields') :
    ReadsAs (.record fields) (.record fields') := by
  intro level fuel rest hfuel
  obtain ⟨fuel, rfl⟩ := Nat.exists_eq_add_one_of_ne_zero (Nat.ne_zero_of_lt hfuel)
  cases h with
  | nil => rfl
  | @cons field field' others others' hfield hothers =>
    obtain ⟨name, value⟩ := field
    obtain ⟨_, value'⟩ := field'
    obtain ⟨rfl, hvalue⟩ := hfield
    simp only [writeAt, List.length_cons, List.length_append] at hfuel
    simp only [writeAt, List.cons_append, List.append_assoc, List.nil_append]
    exact value?_record (fields?_written hothers hvalue (by omega) level rest)

end Records

/-! ## Documents -/

/-- **A document that is written is read.** -/
theorem read?_write {d d' : Data} (h : ReadsAs d d') : read? (write d) = some d' := by
  have hvalue := h 0 (2 * (write d).length + 2) [] (by rw [write]; omega)
  rw [← write, List.append_nil] at hvalue
  rw [read?, hvalue]
  rfl

end PageShell.Json
