import PageShell.Proofs.Toml.Strings
import PageShell.Toml.Statement
import PageShell.Toml.Writer

/-!
# Lines that are written are read as statements

A field is written on lines of its own and read as a statement that gives a value to a key. The
header of a table is written on a line of its own, behind an empty one, and read as a statement that
opens the table.

Results:

* `value?_written`: a value that is no table is read, characters as texts.
* `statement?_field`, `statement?_table`, `statement?_nextTable`: what one line is read as.
* `Writes.append`: texts that are read as statements can be put one behind the other.
* `writes_fields`, `writes_section`: what fields and sections are read as.
* `statements?_write`: what a document is read as.
-/

namespace PageShell

/-! ## Values -/

namespace Data

/-- Whether a value is written as one string or one word. -/
def isAtom : Data → Bool
  | boolean _ | character _ | text _ => true
  | _ => false

/-- Whether a value is written without tables: an atom, or a list of atoms. -/
def isFlat : Data → Bool
  | list items => items.all isAtom
  | d => d.isAtom

/-- An atom as it is read, which makes a text of a character. -/
def atomAsRead : Data → Data
  | character c => text (String.singleton c)
  | d => d

/-- A flat value as it is read. -/
def flatAsRead : Data → Data
  | list items => list (items.map atomAsRead)
  | d => d.atomAsRead

end Data

namespace Toml

/-- Whether a text can stand behind a value: it goes on with a line feed, a comma or a bracket. -/
def EndsValue (rest : Text) : Prop :=
  ∃ c u, rest = c :: u ∧ (c = '\n' ∨ c = ',' ∨ c = ']')

theorem EndsValue.endsString {rest : Text} (h : EndsValue rest) : EndsString rest := by
  obtain ⟨c, u, rfl, rfl | rfl | rfl⟩ := h <;> exact ⟨by simp, by simp⟩

theorem word_written {w rest : Text} (hw : ∀ c ∈ w, isWordCharacter c = true)
    (h : EndsValue rest) : word (w ++ rest) = (w, rest) := by
  have hstop : ∃ c u, rest = c :: u ∧ isWordCharacter c = false ∧ c ≠ ' ' := by
    obtain ⟨c, u, rfl, rfl | rfl | rfl⟩ := h <;> exact ⟨_, u, rfl, rfl, by decide⟩
  obtain ⟨c, u, rfl, hc, hblank⟩ := hstop
  have htake : (w ++ c :: u).takeWhile isWordCharacter = w := by
    rw [List.takeWhile_append_of_pos hw, List.takeWhile_cons_of_neg (by simp [hc]),
      List.append_nil]
  have hdrop : (w ++ c :: u).dropWhile isWordCharacter = c :: u := by
    rw [List.dropWhile_append_of_pos hw, List.dropWhile_cons_of_neg (by simp [hc])]
  rw [word, htake, hdrop]
  split
  · rename_i heq
    cases heq
    exact absurd rfl hblank
  · rfl

theorem value?_quoted {q : Char} (hq : q = '"' ∨ q = '\'') (fuel : Nat) (u : Text) :
    value? (fuel + 1) (q :: u) =
      (string? (q :: u)).map fun (s, rest) => (.text (String.ofList s), rest) := by
  rcases hq with rfl | rfl <;> rw [value?]

theorem value?_quote (fuel : Nat) (t : Text) {rest : Text} (h : EndsValue rest) :
    value? (fuel + 1) (quote t ++ rest) = some (.text (String.ofList t), rest) := by
  have hread := string?_quote h.endsString t
  obtain ⟨q, u, hquote, hq⟩ := quote_eq_cons t
  rw [hquote, List.cons_append] at hread ⊢
  rw [value?_quoted hq, hread]
  rfl

theorem value?_word {w : Text} {d : Data} (fuel : Nat) (hne : w ≠ [])
    (hw : ∀ c ∈ w, isWordCharacter c = true) (hd : scalar? w = some d) {rest : Text}
    (h : EndsValue rest) : value? (fuel + 1) (w ++ rest) = some (d, rest) := by
  have hword := word_written hw h
  obtain ⟨c, u, rfl⟩ := List.exists_cons_of_ne_nil hne
  have hc := hw c List.mem_cons_self
  rw [value?.eq_def]
  simp only
  split
  · rename_i heq
    cases heq
    cases hc
  · rename_i heq
    cases heq
    cases hc
  · rename_i heq
    cases heq
    cases hc
  · rename_i heq
    cases heq
    cases hc
  · rw [hword, hd]
    rfl

/-- **An atom is read**, a character as a text. -/
theorem value?_atom {d : Data} (hd : d.isAtom = true) (fuel : Nat) {rest : Text}
    (h : EndsValue rest) :
    value? (fuel + 1) (writeValue d ++ rest) = some (d.atomAsRead, rest) := by
  cases d with
  | boolean b =>
    cases b with
    | true => exact value?_word fuel (by decide) (List.all_eq_true.1 rfl) scalar?_true h
    | false => exact value?_word fuel (by decide) (List.all_eq_true.1 rfl) scalar?_false h
  | character c => exact value?_quote fuel [c] h
  | text s =>
    rw [writeValue, value?_quote fuel s.toList h, String.ofList_toList]
    rfl
  | _ => cases hd

/-! ## Lists -/

/-- Whether a character can start a line: it is no blank, no line break and no comment sign. -/
def startsLine (c : Char) : Bool :=
  c != ' ' && c != '\t' && c != '\n' && c != '\r' && c != '#'

theorem skipLines?_of_startsLine {c : Char} (h : startsLine c = true) (u : Text) :
    skipLines? false (c :: u) = some (c :: u) := by
  simp only [startsLine, Bool.and_eq_true, bne_iff_ne] at h
  rw [skipLines?.eq_def]
  split <;> simp_all

theorem skipBlanks_of_startsLine {c : Char} (h : startsLine c = true) (u : Text) :
    skipBlanks (c :: u) = c :: u := by
  simp only [startsLine, Bool.and_eq_true, bne_iff_ne] at h
  rw [skipBlanks, List.dropWhile_cons_of_neg (by simp [h.1.1.1.1, h.1.1.1.2])]

theorem writeValue_atom_eq_cons {d : Data} (hd : d.isAtom = true) :
    ∃ c u, writeValue d = c :: u ∧ startsLine c = true ∧ c ≠ ']' := by
  have hquoted : ∀ t, ∃ c u, quote t = c :: u ∧ startsLine c = true ∧ c ≠ ']' := by
    intro t
    obtain ⟨q, u, hquote, rfl | rfl⟩ := quote_eq_cons t
    · exact ⟨_, u, hquote, rfl, by decide⟩
    · exact ⟨_, u, hquote, rfl, by decide⟩
  cases d with
  | boolean b =>
    cases b with
    | true => exact ⟨'t', _, rfl, rfl, by decide⟩
    | false => exact ⟨'f', _, rfl, rfl, by decide⟩
  | character c => exact hquoted [c]
  | text s => exact hquoted s.toList
  | _ => cases hd

/-- The end of a list is read behind blanks and line breaks. -/
theorem items?_end {t rest : Text} (h : skipLines? false t = some (']' :: rest)) (fuel : Nat) :
    items? (fuel + 1) t = some ([], rest) := by
  rw [items?, h]
  rfl

/-- An item is read behind blanks and line breaks, and then what follows the comma. -/
theorem items?_item {d : Data} (hd : d.isAtom = true) {t rest : Text}
    (h : skipLines? false t = some (writeValue d ++ ',' :: rest)) (fuel : Nat) :
    items? (fuel + 2) t =
      (items? (fuel + 1) rest).map fun (items, rest) => (d.atomAsRead :: items, rest) := by
  have hvalue := value?_atom hd fuel (⟨',', rest, rfl, .inr (.inl rfl)⟩ : EndsValue (',' :: rest))
  obtain ⟨c, u, hwritten, -, hc⟩ := writeValue_atom_eq_cons hd
  have hcomma : skipLines? false (',' :: rest) = some (',' :: rest) :=
    skipLines?_of_startsLine rfl rest
  rw [hwritten, List.cons_append] at h hvalue
  rw [items?, h]
  simp only [Option.bind_eq_bind, Option.bind_some]
  split
  · rename_i heq
    cases heq
    exact absurd rfl hc
  · rw [hvalue]
    simp only [Option.bind_some, hcomma]
    cases items? (fuel + 1) rest <;> rfl

/-- The last item is read behind blanks and line breaks, and then the end of the list. -/
theorem items?_last {d : Data} (hd : d.isAtom = true) {t rest : Text}
    (h : skipLines? false t = some (writeValue d ++ ']' :: rest)) (fuel : Nat) :
    items? (fuel + 2) t = some ([d.atomAsRead], rest) := by
  have hvalue := value?_atom hd fuel (⟨']', rest, rfl, .inr (.inr rfl)⟩ : EndsValue (']' :: rest))
  obtain ⟨c, u, hwritten, -, hc⟩ := writeValue_atom_eq_cons hd
  have hend : skipLines? false (']' :: rest) = some (']' :: rest) :=
    skipLines?_of_startsLine rfl rest
  rw [hwritten, List.cons_append] at h hvalue
  rw [items?, h]
  simp only [Option.bind_eq_bind, Option.bind_some]
  split
  · rename_i heq
    cases heq
    exact absurd rfl hc
  · rw [hvalue]
    simp only [Option.bind_some, hend]
    rfl

theorem skipLines?_writeValue {d : Data} (hd : d.isAtom = true) (rest : Text) :
    skipLines? false (writeValue d ++ rest) = some (writeValue d ++ rest) := by
  obtain ⟨c, u, hwritten, hc, -⟩ := writeValue_atom_eq_cons hd
  rw [hwritten]
  exact skipLines?_of_startsLine hc _

theorem items?_writeRest {items : List Data} (h : ∀ d ∈ items, d.isAtom = true) (fuel : Nat)
    (rest : Text) :
    items? (fuel + items.length + 1) ('\n' :: (writeValue.writeRest items ++ ']' :: rest)) =
      some (items.map Data.atomAsRead, rest) := by
  induction items with
  | nil => exact items?_end rfl fuel
  | cons d items ih =>
    have hd := h d List.mem_cons_self
    have hskip : skipLines? false
        ('\n' :: (writeValue.writeRest (d :: items) ++ ']' :: rest)) =
        some (writeValue d ++ ',' :: '\n' :: (writeValue.writeRest items ++ ']' :: rest)) := by
      rw [writeValue.writeRest, ← skipLines?_writeValue hd]
      simp [skipLines?]
    rw [List.length_cons, ← Nat.add_assoc, items?_item hd hskip,
      ih fun d' hd' => h d' (List.mem_cons_of_mem _ hd')]
    rfl

theorem length_le_writeRest (items : List Data) :
    items.length ≤ (writeValue.writeRest items).length := by
  induction items with
  | nil => exact Nat.le_refl _
  | cons d items ih =>
    simp only [writeValue.writeRest, List.length_append, List.length_cons, List.length_nil]
    omega

theorem value?_list (fuel : Nat) (u : Text) :
    value? (fuel + 1) ('[' :: u) =
      (items? fuel u).map fun (items, rest) => (.list items, rest) := by
  rw [value?]

/-- **A flat value is read**, characters as texts, with fuel for its length. -/
theorem value?_written {d : Data} (hd : d.isFlat = true) {rest : Text} (h : EndsValue rest)
    {fuel : Nat} (hfuel : (writeValue d).length + 2 ≤ fuel) :
    value? fuel (writeValue d ++ rest) = some (d.flatAsRead, rest) := by
  obtain ⟨fuel, rfl⟩ : ∃ k, fuel = k + 1 := ⟨fuel - 1, by omega⟩
  cases d with
  | list items =>
    have hitems : ∀ d ∈ items, d.isAtom = true := List.all_eq_true.1 hd
    obtain ⟨fuel, rfl⟩ : ∃ k, fuel = k + 1 := ⟨fuel - 1, by omega⟩
    rcases items with _ | ⟨d, _ | ⟨d', items⟩⟩
    · change value? (fuel + 2) ('[' :: ']' :: rest) = _
      rw [value?_list, items?_end rfl]
      rfl
    · have hd := hitems d List.mem_cons_self
      simp only [writeValue, List.length_cons, List.length_append, List.length_nil] at hfuel
      obtain ⟨fuel, rfl⟩ : ∃ k, fuel = k + 1 := ⟨fuel - 1, by omega⟩
      have hskip := skipLines?_writeValue hd (']' :: rest)
      rw [writeValue, List.cons_append, List.cons_append, List.append_assoc, List.singleton_append,
        value?_list, items?_last hd hskip]
      rfl
    · have hlength := length_le_writeRest (d :: d' :: items)
      have hwritten : writeValue (.list (d :: d' :: items)) =
          '[' :: '\n' :: (writeValue.writeRest (d :: d' :: items) ++ [']']) := by
        simp [writeValue, writeValue.writeRest]
      rw [hwritten] at hfuel ⊢
      simp only [List.length_cons, List.length_append, List.length_nil] at hfuel hlength
      obtain ⟨k, rfl⟩ : ∃ k, fuel = k + (d :: d' :: items).length :=
        ⟨fuel - (d :: d' :: items).length, by simp only [List.length_cons]; omega⟩
      rw [List.cons_append, List.cons_append, List.append_assoc, List.singleton_append, value?_list,
        items?_writeRest hitems]
      rfl
  | boolean b => exact value?_atom (d := .boolean b) hd fuel h
  | character c => exact value?_atom (d := .character c) hd fuel h
  | text s => exact value?_atom (d := .text s) hd fuel h
  | _ => cases hd

/-! ## Keys -/

/-- Whether a name can stand as a key without quotes. -/
def IsBareKey (name : String) : Prop :=
  name.toList ≠ [] ∧ ∀ c ∈ name.toList, isBareCharacter c = true

instance (name : String) : Decidable (IsBareKey name) :=
  decidable_of_iff (name.toList ≠ [] ∧ name.toList.all isBareCharacter = true)
    (and_congr_right fun _ => List.all_eq_true)

theorem IsBareKey.exists_cons {name : String} (h : IsBareKey name) :
    ∃ c u, name.toList = c :: u ∧ isBareCharacter c = true := by
  obtain ⟨c, u, hname⟩ := List.exists_cons_of_ne_nil h.1
  exact ⟨c, u, hname, h.2 c (hname ▸ List.mem_cons_self)⟩

theorem ne_of_isBareCharacter {c d : Char} (h : isBareCharacter c = true)
    (hd : isBareCharacter d = false) : c ≠ d := by
  rintro rfl
  rw [h] at hd
  cases hd

theorem startsLine_of_isBareCharacter {c : Char} (h : isBareCharacter c = true) :
    startsLine c = true := by
  have hne := fun d hd => ne_of_isBareCharacter (d := d) h hd
  simp [startsLine, hne ' ' rfl, hne '\t' rfl, hne '\n' rfl, hne '\r' rfl, hne '#' rfl]

theorem keyPart?_bare {name : String} (h : IsBareKey name) {c : Char}
    (hc : isBareCharacter c = false) (u : Text) :
    keyPart? (name.toList ++ c :: u) = some (name, c :: u) := by
  have htake : (name.toList ++ c :: u).takeWhile isBareCharacter = name.toList := by
    rw [List.takeWhile_append_of_pos h.2, List.takeWhile_cons_of_neg (by simp [hc]),
      List.append_nil]
  have hdrop : (name.toList ++ c :: u).dropWhile isBareCharacter = c :: u := by
    rw [List.dropWhile_append_of_pos h.2, List.dropWhile_cons_of_neg (by simp [hc])]
  obtain ⟨d, v, hname, hd⟩ := h.exists_cons
  have hne := fun e he => ne_of_isBareCharacter (d := e) hd he
  unfold keyPart?
  split
  · rename_i heq
    rw [hname] at heq
    exact absurd (List.cons.inj heq).1 (hne '"' rfl)
  · rename_i heq
    rw [hname] at heq
    exact absurd (List.cons.inj heq).1 (hne '\'' rfl)
  · rw [htake, hdrop, hname]
    simp only
    rw [← hname, String.ofList_toList]

/-- A bare key is read with the blanks behind it. -/
theorem key?_bare {name : String} (h : IsBareKey name) {c : Char}
    (hc : isBareCharacter c = false) {u v : Text} (hblanks : skipBlanks (c :: u) = v)
    (hdot : v.head? ≠ some '.') (fuel : Nat) :
    key? (fuel + 1) (name.toList ++ c :: u) = some ([name], v) := by
  obtain ⟨d, w, hname, hd⟩ := h.exists_cons
  have hstart : skipBlanks (name.toList ++ c :: u) = name.toList ++ c :: u := by
    rw [hname]
    exact skipBlanks_of_startsLine (startsLine_of_isBareCharacter hd) _
  rw [key?, hstart, keyPart?_bare h hc]
  simp only [Option.bind_eq_bind, Option.bind_some, hblanks]
  split
  · exact absurd rfl hdot
  · rfl

/-! ## Statements -/

theorem writeValue_flat_eq_cons {d : Data} (hd : d.isFlat = true) :
    ∃ c u, writeValue d = c :: u ∧ startsLine c = true := by
  cases d with
  | list items =>
    rcases items with _ | ⟨d, _ | ⟨d', items⟩⟩
    · exact ⟨'[', _, rfl, rfl⟩
    · exact ⟨'[', _, rfl, rfl⟩
    · exact ⟨'[', _, rfl, rfl⟩
  | boolean b =>
    obtain ⟨c, u, hwritten, hc, -⟩ := writeValue_atom_eq_cons (d := .boolean b) hd
    exact ⟨c, u, hwritten, hc⟩
  | character c =>
    obtain ⟨c, u, hwritten, hc, -⟩ := writeValue_atom_eq_cons (d := .character c) hd
    exact ⟨c, u, hwritten, hc⟩
  | text s =>
    obtain ⟨c, u, hwritten, hc, -⟩ := writeValue_atom_eq_cons (d := .text s) hd
    exact ⟨c, u, hwritten, hc⟩
  | _ => cases hd

theorem equals?_written {d : Data} (hd : d.isFlat = true) (rest : Text) :
    equals? ('=' :: ' ' :: (writeValue d ++ rest)) = some (writeValue d ++ rest) := by
  obtain ⟨c, u, hwritten, hc⟩ := writeValue_flat_eq_cons hd
  have hblank : skipBlanks (' ' :: (writeValue d ++ rest)) = skipBlanks (writeValue d ++ rest) :=
    rfl
  rw [equals?, hblank, hwritten]
  exact congrArg some (skipBlanks_of_startsLine hc _)

/-- The statement that a field is read as. -/
def fieldStatement (field : String × Data) : Statement := .assign [field.1] field.2.flatAsRead

/-- **A field is read as a statement** that gives its value to its key. -/
theorem statement?_field {field : String × Data} (hname : IsBareKey field.1)
    (hvalue : field.2.isFlat = true) (rest : Text) :
    statement? (writeField field ++ rest) = some (fieldStatement field, '\n' :: rest) := by
  obtain ⟨name, d⟩ := field
  simp only at hname hvalue
  have hwritten : writeField (name, d) ++ rest =
      name.toList ++ ' ' :: '=' :: ' ' :: (writeValue d ++ '\n' :: rest) := by
    simp [writeField]
  have hblanks : skipBlanks (' ' :: '=' :: ' ' :: (writeValue d ++ '\n' :: rest)) =
      '=' :: ' ' :: (writeValue d ++ '\n' :: rest) := rfl
  have hread : ∀ fuel, (writeValue d ++ '\n' :: rest).length + 2 ≤ fuel →
      value? fuel (writeValue d ++ '\n' :: rest) = some (d.flatAsRead, '\n' :: rest) := by
    intro fuel hfuel
    rw [List.length_append] at hfuel
    exact value?_written hvalue ⟨'\n', rest, rfl, .inl rfl⟩ (by omega)
  obtain ⟨c, u, hcons, hc⟩ := hname.exists_cons
  rw [hwritten]
  unfold statement?
  split
  · rename_i heq
    rw [hcons] at heq
    exact absurd (List.cons.inj heq).1 (ne_of_isBareCharacter hc rfl)
  · rename_i heq
    rw [hcons] at heq
    exact absurd (List.cons.inj heq).1 (ne_of_isBareCharacter hc rfl)
  · have hlength : ∀ v, (name.toList ++ ' ' :: v).length = name.toList.length + v.length + 1 := by
      intro v
      rw [List.length_append, List.length_cons]
      omega
    rw [hlength, key?_bare hname rfl hblanks (by simp)]
    simp only [Option.bind_eq_bind, Option.bind_some, equals?_written hvalue]
    rw [hread _ (by omega)]
    rfl

/-- The header of a table is read as a statement that opens it. -/
theorem statement?_table {name : String} (h : IsBareKey name) (rest : Text) :
    statement? ('[' :: (name.toList ++ ']' :: rest)) = some (.table [name], rest) := by
  obtain ⟨c, u, hcons, hc⟩ := h.exists_cons
  have hkey : ∀ fuel, key? (fuel + 1) (name.toList ++ ']' :: rest) = some ([name], ']' :: rest) :=
    fun fuel => key?_bare h rfl rfl (by simp [skipBlanks]) fuel
  have hlength : (name.toList ++ ']' :: rest).length = name.toList.length + rest.length + 1 := by
    rw [List.length_append, List.length_cons]
    omega
  unfold statement?
  split
  · rename_i heq
    rw [hcons] at heq
    exact absurd (List.cons.inj (List.cons.inj heq).2).1 (ne_of_isBareCharacter hc rfl)
  · rename_i heq
    cases heq
    rw [hlength, hkey]
    rfl
  · rename_i hnot
    exact (hnot _ rfl).elim

/-- The header of one more table of a list is read as a statement that opens it. -/
theorem statement?_nextTable {name : String} (h : IsBareKey name) (rest : Text) :
    statement? ('[' :: '[' :: (name.toList ++ ']' :: ']' :: rest)) =
      some (.nextTable [name], rest) := by
  have hkey : ∀ fuel, key? (fuel + 1) (name.toList ++ ']' :: ']' :: rest) =
      some ([name], ']' :: ']' :: rest) :=
    fun fuel => key?_bare h rfl rfl (by simp [skipBlanks]) fuel
  have hlength : (name.toList ++ ']' :: ']' :: rest).length =
      name.toList.length + rest.length + 1 + 1 := by
    rw [List.length_append, List.length_cons, List.length_cons]
    omega
  rw [statement?, hlength, hkey]
  rfl

/-! ## Lines -/

/-- A text is read as some statements, whatever follows it. -/
structure Writes (t : Text) (statements : List Statement) : Prop where
  length_le : statements.length ≤ t.length
  read : ∀ fuel rest, statements? (fuel + statements.length) (t ++ rest) =
    (statements? fuel rest).map (statements ++ ·)

theorem Writes.nil : Writes [] [] where
  length_le := Nat.le_refl _
  read fuel rest := by
    rw [List.nil_append, List.length_nil, Nat.add_zero]
    cases statements? fuel rest <;> rfl

/-- **Texts that are read as statements can be put one behind the other.** -/
theorem Writes.append {t u : Text} {xs ys : List Statement} (h : Writes t xs) (h' : Writes u ys) :
    Writes (t ++ u) (xs ++ ys) where
  length_le := by
    rw [List.length_append, List.length_append]
    exact Nat.add_le_add h.length_le h'.length_le
  read fuel rest := by
    rw [List.length_append, Nat.add_comm xs.length, ← Nat.add_assoc, List.append_assoc, h.read,
      h'.read]
    cases statements? fuel rest with
    | none => rfl
    | some statements => exact congrArg some (List.append_assoc ..).symm

theorem Writes.flatMap {α : Type} {f : α → Text} {g : α → List Statement} {xs : List α}
    (h : ∀ x ∈ xs, Writes (f x) (g x)) : Writes (xs.flatMap f) (xs.flatMap g) := by
  induction xs with
  | nil => exact .nil
  | cons x xs ih =>
    exact .append (h x List.mem_cons_self) (ih fun y hy => h y (List.mem_cons_of_mem _ hy))

/-- A line is read as a statement if what is left of it behind the statement is its end. -/
theorem writes_line {t : Text} {statement : Statement}
    (hstart : ∀ rest, skipLines? false (t ++ rest) = some (t ++ rest)) (hne : t ≠ [])
    (h : ∀ rest, statement? (t ++ rest) = some (statement, '\n' :: rest)) :
    Writes t [statement] where
  length_le := List.length_pos_iff.2 hne
  read fuel rest := by
    obtain ⟨c, u, rfl⟩ := List.exists_cons_of_ne_nil hne
    have hread := h rest
    have hend : endLine? ('\n' :: rest) = some rest := rfl
    rw [List.length_singleton, statements?, hstart]
    simp only [Option.bind_eq_bind, Option.bind_some, List.cons_append] at hread ⊢
    rw [hread]
    simp only [Option.bind_some, hend]
    cases statements? fuel rest <;> rfl

/-- An empty line in front changes nothing. -/
theorem Writes.emptyLine {t : Text} {statements : List Statement} (h : Writes t statements)
    (hne : statements ≠ []) : Writes ('\n' :: t) statements where
  length_le := Nat.le_succ_of_le h.length_le
  read fuel rest := by
    obtain ⟨s, ss, rfl⟩ := List.exists_cons_of_ne_nil hne
    rw [← h.read]
    rfl

/-! ## Documents -/

/-- Fields that can be written each on a line: bare keys, each once, with flat values. -/
structure AreFlat (fields : List (String × Data)) : Prop where
  bare : ∀ field ∈ fields, IsBareKey field.1
  nodup : (fields.map (·.1)).Nodup
  flat : ∀ field ∈ fields, field.2.isFlat = true

/-- Fields with bare names, each once, can be written each on a line if their values can. -/
theorem areFlat_of_names {fields : List (String × Data)} (names : List String)
    (h : fields.map (·.1) = names) (hbare : ∀ name ∈ names, IsBareKey name) (hnodup : names.Nodup)
    (hflat : ∀ field ∈ fields, field.2.isFlat = true) : AreFlat fields where
  bare field hfield := hbare field.1 (h ▸ List.mem_map_of_mem hfield)
  nodup := h ▸ hnodup
  flat := hflat

/-- A field that is written as a table, or as one table for each item of a list. -/
inductive IsTable : Data → Prop
  | record (fields : List (String × Data)) (h : AreFlat fields) : IsTable (.record fields)
  | list (first : List (String × Data)) (others : List (List (String × Data)))
      (h : ∀ fields ∈ first :: others, AreFlat fields) :
      IsTable (.list ((first :: others).map .record))

/-- The statements that a table, or the tables of a list, are read as. -/
def sectionStatements (field : String × Data) : List Statement :=
  match field.2 with
  | .record fields => .table [field.1] :: fields.map fieldStatement
  | .list items =>
    items.flatMap fun item => .nextTable [field.1] :: (fieldsOf item).map fieldStatement
  | _ => []

theorem writes_field {field : String × Data} (hname : IsBareKey field.1)
    (hvalue : field.2.isFlat = true) : Writes (writeField field) [fieldStatement field] := by
  obtain ⟨c, u, hcons, hc⟩ := hname.exists_cons
  have hwritten : writeField field =
      c :: (u ++ [' ', '=', ' '] ++ writeValue field.2 ++ ['\n']) := by
    rw [writeField, hcons]
    rfl
  refine writes_line (fun rest => ?_) (by simp [hwritten]) (statement?_field hname hvalue)
  rw [hwritten]
  exact skipLines?_of_startsLine (startsLine_of_isBareCharacter hc) _

theorem writes_fields {fields : List (String × Data)} (h : AreFlat fields) :
    Writes (writeFields fields) (fields.map fieldStatement) := by
  rw [List.map_eq_flatMap]
  exact .flatMap fun field hfield => writes_field (h.bare field hfield) (h.flat field hfield)

theorem writes_tableHeader {name : String} (h : IsBareKey name) :
    Writes (['\n', '['] ++ name.toList ++ [']', '\n']) [.table [name]] := by
  have hline : Writes ('[' :: (name.toList ++ [']', '\n'])) [.table [name]] := by
    refine writes_line (fun rest => skipLines?_of_startsLine rfl _) (by simp) fun rest => ?_
    rw [List.cons_append, List.append_assoc]
    exact statement?_table h _
  have := hline.emptyLine (by simp)
  rwa [List.append_assoc]

theorem writes_nextTableHeader {name : String} (h : IsBareKey name) :
    Writes (['\n', '[', '['] ++ name.toList ++ [']', ']', '\n']) [.nextTable [name]] := by
  have hline : Writes ('[' :: '[' :: (name.toList ++ [']', ']', '\n'])) [.nextTable [name]] := by
    refine writes_line (fun rest => skipLines?_of_startsLine rfl _) (by simp) fun rest => ?_
    rw [List.cons_append, List.cons_append, List.append_assoc]
    exact statement?_nextTable h _
  have := hline.emptyLine (by simp)
  rwa [List.append_assoc]

/-- **A section is read as the statements of its tables.** -/
theorem writes_section {field : String × Data} (hname : IsBareKey field.1)
    (h : IsTable field.2) : Writes (writeSection field) (sectionStatements field) := by
  obtain ⟨name, d⟩ := field
  cases h with
  | record fields hfields =>
    exact (writes_tableHeader hname).append (writes_fields hfields)
  | list first others hitems =>
    refine .flatMap fun item hitem => ?_
    obtain ⟨fields, hmem, rfl⟩ := List.mem_map.1 hitem
    exact (writes_nextTableHeader hname).append (writes_fields (hitems fields hmem))

theorem isSection_of_isFlat {d : Data} (h : d.isFlat = true) : isSection d = false := by
  cases d with
  | list items =>
    cases items with
    | nil => rfl
    | cons d items =>
      have hd : d.isAtom = true := List.all_eq_true.1 h d List.mem_cons_self
      cases d with
      | record fields => cases hd
      | _ => rfl
  | record fields => cases h
  | _ => rfl

theorem isSection_of_isTable {d : Data} (h : IsTable d) : isSection d = true := by
  cases h <;> rfl

/-- A document is written with its plain fields first, and then its sections. -/
theorem write_append {plain sections : List (String × Data)}
    (hplain : ∀ field ∈ plain, field.2.isFlat = true)
    (hsections : ∀ field ∈ sections, IsTable field.2) :
    write (plain ++ sections) = writeFields plain ++ sections.flatMap writeSection := by
  have hflat : ∀ field ∈ plain, isSection field.2 = false := fun field hfield =>
    isSection_of_isFlat (hplain field hfield)
  have htable : ∀ field ∈ sections, isSection field.2 = true := fun field hfield =>
    isSection_of_isTable (hsections field hfield)
  have hleft : (plain ++ sections).filter (!isSection ·.2) = plain := by
    have hnone : sections.filter (!isSection ·.2) = [] :=
      List.filter_eq_nil_iff.2 fun field hfield => by simp [htable field hfield]
    rw [List.filter_append, hnone, List.append_nil, List.filter_eq_self]
    intro field hfield
    rw [hflat field hfield]
    rfl
  have hright : (plain ++ sections).filter (isSection ·.2) = sections := by
    have hnone : plain.filter (isSection ·.2) = [] :=
      List.filter_eq_nil_iff.2 fun field hfield => by simp [hflat field hfield]
    rw [List.filter_append, hnone, List.nil_append, List.filter_eq_self.2 htable]
  rw [write, hleft, hright]

/-- **A document is read as the statements of its plain fields and of its sections**, with fuel for
its length. -/
theorem statements?_write {plain sections : List (String × Data)} (hplain : AreFlat plain)
    (hsections : ∀ field ∈ sections, IsBareKey field.1 ∧ IsTable field.2) :
    statements? ((write (plain ++ sections)).length + 1) (write (plain ++ sections)) =
      some (plain.map fieldStatement ++ sections.flatMap sectionStatements) := by
  have hwrites : Writes (write (plain ++ sections))
      (plain.map fieldStatement ++ sections.flatMap sectionStatements) := by
    rw [write_append hplain.flat fun field hfield => (hsections field hfield).2]
    refine (writes_fields hplain).append (.flatMap fun field hfield => ?_)
    obtain ⟨hname, htable⟩ := hsections field hfield
    exact writes_section hname htable
  have hlength := hwrites.length_le
  obtain ⟨fuel, hfuel⟩ : ∃ fuel, (write (plain ++ sections)).length + 1 =
      fuel + 1 + (plain.map fieldStatement ++ sections.flatMap sectionStatements).length :=
    ⟨(write (plain ++ sections)).length -
      (plain.map fieldStatement ++ sections.flatMap sectionStatements).length, by omega⟩
  have hread := hwrites.read (fuel + 1) []
  rw [List.append_nil, ← hfuel, statements?_nil, Option.map_some, List.append_nil] at hread
  exact hread

end Toml

end PageShell
