/-!
# Texts, their length in bytes and their parts

A text is the sequence of its code points. Offsets into a text count the bytes of its UTF-8
form, so every offset that a function of this library reports lies between two code points.

Results:

* `utf8Length_append`, `utf8Length_reverse`: byte length is additive and blind to order.
* `occurs_iff_isInfix`: `occurs needle` holds of exactly the texts that contain `needle` as a
  contiguous part.
* `fields_ne_nil`: a text that is cut has at least one piece.
-/

namespace PageShell

/-- A text, as its code points in order. -/
abbrev Text := List Char

namespace Text

/-! ## Length in bytes -/

/-- The number of bytes of the UTF-8 form of a text. -/
def utf8Length : Text → Nat
  | [] => 0
  | c :: rest => c.utf8Size + utf8Length rest

@[simp] theorem utf8Length_nil : utf8Length [] = 0 := rfl

@[simp] theorem utf8Length_cons (c : Char) (t : Text) :
    utf8Length (c :: t) = c.utf8Size + utf8Length t := rfl

@[simp] theorem utf8Length_append (s t : Text) :
    utf8Length (s ++ t) = utf8Length s + utf8Length t := by
  induction s with
  | nil => simp
  | cons c s ih => simp [ih, Nat.add_assoc]

@[simp] theorem utf8Length_reverse (t : Text) : utf8Length t.reverse = utf8Length t := by
  induction t with
  | nil => rfl
  | cons c t ih => simp [ih, Nat.add_comm]

/-! ## Containment -/

/-- Whether `needle` occurs in the text as a contiguous part. -/
def occurs (needle : Text) : Text → Bool
  | [] => needle.isEmpty
  | c :: rest => needle.isPrefixOf (c :: rest) || occurs needle rest

theorem occurs_iff_isInfix (needle t : Text) : occurs needle t = true ↔ needle <:+: t := by
  induction t with
  | nil => simp [occurs]
  | cons c t ih =>
    simp only [occurs, Bool.or_eq_true, List.isPrefixOf_iff_prefix, ih, List.infix_cons_iff]

/-! ## Fields between separators -/

/-- The pieces of a text between the characters that `isSeparator` holds of. There is always
at least one piece, and two neighbouring separators have an empty piece between them. -/
def fields (isSeparator : Char → Bool) : Text → List Text
  | [] => [[]]
  | c :: rest =>
    if isSeparator c then [] :: fields isSeparator rest
    else match fields isSeparator rest with
      | [] => [[c]]
      | piece :: pieces => (c :: piece) :: pieces

/-- The pieces put side by side with `separator` between them. -/
def joinFields (separator : Text) : List Text → Text
  | [] => []
  | [piece] => piece
  | piece :: pieces => piece ++ separator ++ joinFields separator pieces

theorem fields_ne_nil (isSeparator : Char → Bool) (t : Text) : fields isSeparator t ≠ [] := by
  cases t with
  | nil => simp [fields]
  | cons c t =>
    unfold fields
    split
    · simp
    · split <;> simp

/-- A text without one given beginning; unchanged if it begins otherwise. -/
def dropStart (start t : Text) : Text :=
  if start.isPrefixOf t then t.drop start.length else t

end Text

end PageShell
