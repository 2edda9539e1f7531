import Mathlib.Data.List.TakeWhile
import PageShell.Proofs.Usable
import PageShell.Proofs.Wrapping

/-!
# What an opening tag says

A tag is written as `<` and a name, a blank and an attribute any number of times, and `>`. An
attribute is a name bound to a text in quotes or to code in braces. No text is written for two
tags, and an accepted wrapper writes the tag with its three attributes. These need not have three
names: the role may be passed through as well, and is then bound twice.

Results:

* `Tag.text_append_inj`: a tag is known from a text that begins with it.
* `Wrapper.reads_openingTag_iff`: how the opening tag of a wrapper is read.
* `Wrapper.nodup_names_iff`, `Wrapper.values_roleAttribute_iff`: when its attributes have different
  names, and when the role is bound to the label alone.
* `Wrapper.render_inj`: wrapper, category and markup are known from the rendered element.
* `Wrapper.accepted_tag`: what an accepted wrapper renders.
-/

namespace PageShell

/-! ## Texts up to a delimiter -/

namespace Text

/-- A text of characters with `p` is known from what has it in front of a character without `p`. -/
theorem append_inj_of_delimiter {p : Char → Bool} {u v s t : Text} {x y : Char}
    (hu : ∀ c ∈ u, p c = true) (hv : ∀ c ∈ v, p c = true) (hx : p x = false) (hy : p y = false)
    (h : u ++ x :: s = v ++ y :: t) : u = v ∧ x :: s = y :: t := by
  have htake : ∀ {u : Text} {x : Char} (s : Text), (∀ c ∈ u, p c = true) → p x = false →
      (u ++ x :: s).takeWhile p = u := by
    intro u x s hu hx
    rw [List.takeWhile_append_of_pos hu, List.takeWhile_cons_of_neg (by simp [hx]), List.append_nil]
  have huv : u = v := by rw [← htake s hu hx, h, htake t hv hy]
  subst huv
  exact ⟨rfl, List.append_cancel_left h⟩

/-- A text without the character `x` goes up to the first one. -/
theorem append_cons_inj {x : Char} {u v s t : Text} (hu : x ∉ u) (hv : x ∉ v)
    (h : u ++ x :: s = v ++ x :: t) : u = v ∧ s = t := by
  have hne : ∀ {w : Text}, x ∉ w → ∀ c ∈ w, (c != x) = true := fun hw c hc =>
    bne_iff_ne.2 fun heq => hw (heq ▸ hc)
  obtain ⟨huv, hst⟩ := append_inj_of_delimiter (hne hu) (hne hv) (by simp) (by simp) h
  exact ⟨huv, (List.cons.inj hst).2⟩

end Text

/-! ## Attributes -/

/-- What an attribute is bound to: a text, or code. -/
inductive AttributeValue
  | quoted (t : Text)
  | braced (t : Text)
  deriving DecidableEq, Repr

namespace AttributeValue

/-- The value as it is written. -/
def text : AttributeValue → Text
  | quoted t => '"' :: t ++ ['"']
  | braced t => '\x7b' :: t ++ ['\x7d']

/-- A value ends at the first closing mark. -/
def IsClosed : AttributeValue → Prop
  | quoted t => '"' ∉ t
  | braced t => '\x7d' ∉ t

variable {v v' : AttributeValue} {s s' : Text}

theorem text_append_inj (hv : v.IsClosed) (hv' : v'.IsClosed) (h : v.text ++ s = v'.text ++ s') :
    v = v' ∧ s = s' := by
  cases v <;> cases v' <;> simp only [text, List.cons_append, List.append_assoc, List.nil_append,
    List.cons.injEq] at h
  case quoted.quoted t t' =>
    obtain ⟨rfl, rfl⟩ := Text.append_cons_inj hv hv' h.2
    exact ⟨rfl, rfl⟩
  case braced.braced t t' =>
    obtain ⟨rfl, rfl⟩ := Text.append_cons_inj hv hv' h.2
    exact ⟨rfl, rfl⟩
  all_goals exact absurd h.1 (by decide)

end AttributeValue

/-- Whether a character can be in the name of a tag or an attribute. -/
def isTagNamePart (c : Char) : Bool := c != ' ' && c != '=' && c != '>'

/-- An attribute of a tag. -/
structure Attribute where
  name : Text
  value : AttributeValue
  deriving DecidableEq, Repr

namespace Attribute

/-- The attribute as it is written, with the blank in front of it. -/
def text (a : Attribute) : Text := ' ' :: a.name ++ '=' :: a.value.text

/-- The name and the value can be told from what is around them. -/
structure IsWellFormed (a : Attribute) : Prop where
  name_ne_nil : a.name ≠ []
  name_parts : ∀ c ∈ a.name, isTagNamePart c = true
  value_isClosed : a.value.IsClosed

variable {a b : Attribute} {s s' : Text}

theorem text_append_inj (ha : a.IsWellFormed) (hb : b.IsWellFormed)
    (h : a.text ++ s = b.text ++ s') : a = b ∧ s = s' := by
  simp only [text, List.cons_append, List.append_assoc, List.cons.injEq, true_and] at h
  obtain ⟨hname, hrest⟩ := Text.append_inj_of_delimiter ha.name_parts hb.name_parts (by decide)
    (by decide) h
  obtain ⟨hvalue, hs⟩ := AttributeValue.text_append_inj ha.value_isClosed hb.value_isClosed
    (List.cons.inj hrest).2
  cases a
  cases b
  cases hname
  cases hvalue
  exact ⟨rfl, hs⟩

/-- A list of attributes goes to the end of the tag. -/
theorem flatMap_text_append_inj {as bs : List Attribute} (has : ∀ a ∈ as, a.IsWellFormed)
    (hbs : ∀ b ∈ bs, b.IsWellFormed)
    (h : as.flatMap text ++ '>' :: s = bs.flatMap text ++ '>' :: s') : as = bs ∧ s = s' := by
  induction as generalizing bs with
  | nil =>
    cases bs with
    | nil => exact ⟨rfl, (List.cons.inj h).2⟩
    | cons b bs => exact absurd (List.cons.inj h).1 (by decide)
  | cons a as ih =>
    cases bs with
    | nil => exact absurd (List.cons.inj h).1 (by decide)
    | cons b bs =>
      rw [List.forall_mem_cons] at has hbs
      rw [List.flatMap_cons, List.flatMap_cons, List.append_assoc, List.append_assoc] at h
      obtain ⟨rfl, hrest⟩ := text_append_inj has.1 hbs.1 h
      obtain ⟨rfl, hs⟩ := ih has.2 hbs.2 hrest
      exact ⟨rfl, hs⟩

end Attribute

/-! ## Tags -/

/-- An opening tag. -/
structure Tag where
  name : Text
  attributes : List Attribute
  deriving DecidableEq, Repr

namespace Tag

/-- The tag as it is written. -/
def text (tag : Tag) : Text := '<' :: tag.name ++ tag.attributes.flatMap Attribute.text ++ ['>']

/-- The name and the attributes can be told from what is around them. -/
structure IsWellFormed (tag : Tag) : Prop where
  name_ne_nil : tag.name ≠ []
  name_parts : ∀ c ∈ tag.name, isTagNamePart c = true
  attributes_wellFormed : ∀ a ∈ tag.attributes, a.IsWellFormed

/-- What is read from a text: a tag that is written so. -/
def Reads (t : Text) (tag : Tag) : Prop := tag.IsWellFormed ∧ tag.text = t

/-- The values that are bound to a name, in order. -/
def values (tag : Tag) (name : Text) : List AttributeValue :=
  (tag.attributes.filter (·.name = name)).map (·.value)

variable {tag tag' : Tag} {s s' : Text}

/-- The name of a tag ends at a blank, or at the end of the tag. -/
theorem exists_behind_name (as : List Attribute) (s : Text) :
    ∃ x rest, as.flatMap Attribute.text ++ '>' :: s = x :: rest ∧ isTagNamePart x = false := by
  cases as with
  | nil => exact ⟨'>', s, rfl, by decide⟩
  | cons a as => exact ⟨' ', _, rfl, by decide⟩

/-- **A tag is known from a text that begins with it**, and so is what is behind the tag. -/
theorem text_append_inj (htag : tag.IsWellFormed) (htag' : tag'.IsWellFormed)
    (h : tag.text ++ s = tag'.text ++ s') : tag = tag' ∧ s = s' := by
  simp only [text, List.cons_append, List.append_assoc, List.nil_append, List.cons.injEq,
    true_and] at h
  obtain ⟨x, rest, hrest, hx⟩ := exists_behind_name tag.attributes s
  obtain ⟨y, rest', hrest', hy⟩ := exists_behind_name tag'.attributes s'
  rw [hrest, hrest'] at h
  obtain ⟨hname, hattributes⟩ :=
    Text.append_inj_of_delimiter htag.name_parts htag'.name_parts hx hy h
  rw [← hrest, ← hrest'] at hattributes
  obtain ⟨hattributes, hs⟩ := Attribute.flatMap_text_append_inj htag.attributes_wellFormed
    htag'.attributes_wellFormed hattributes
  cases tag
  cases tag'
  cases hname
  cases hattributes
  exact ⟨rfl, hs⟩

theorem Reads.unique {t : Text} (h : Reads t tag) (h' : Reads t tag') : tag = tag' := by
  have htext : tag.text ++ [] = tag'.text ++ [] := by rw [h.2, h'.2]
  exact (text_append_inj h.1 h'.1 htext).1

end Tag

/-! ## The tag of a wrapper -/

namespace Wrapper

variable {w w' : Wrapper} {c c' : Category} {m m' : Text}

/-- The attribute that passes a variable on under its own name. -/
def passing (name : String) : Attribute := ⟨name.toList, .braced name.toList⟩

/-- What the opening tag of a wrapper says. -/
def tag (w : Wrapper) (c : Category) : Tag where
  name := w.component.toList
  attributes :=
    [⟨w.roleAttribute.toList, .quoted c.label.toList⟩, passing w.passThrough.1,
      passing w.passThrough.2]

theorem text_tag (w : Wrapper) (c : Category) : (w.tag c).text = w.openingTag c := by
  simp [tag, Tag.text, Attribute.text, AttributeValue.text, passing, openingTag, openingName,
    binding]

theorem isTagNamePart_of_mem {name : String} (h : isIdentifier name = true) :
    ∀ x ∈ name.toList, isTagNamePart x = true := by
  have hne : ∀ {x y : Char}, isIdentifierPart y = false → x ∈ name.toList → x ≠ y :=
    fun hy hx heq => not_mem_of_isIdentifier h hy (heq ▸ hx)
  intro x hx
  simp only [isTagNamePart, Bool.and_eq_true, bne_iff_ne]
  exact ⟨⟨hne (by decide) hx, hne (by decide) hx⟩, hne (by decide) hx⟩

theorem ne_nil_of_isIdentifier {name : String} (h : isIdentifier name = true) :
    name.toList ≠ [] := by
  obtain ⟨x, rest, hname, -⟩ := (isIdentifier_iff name).1 h
  rw [hname]
  exact List.cons_ne_nil x rest

theorem isWellFormed_passing {name : String} (h : isIdentifier name = true) :
    (passing name).IsWellFormed :=
  ⟨ne_nil_of_isIdentifier h, isTagNamePart_of_mem h, not_mem_of_isIdentifier h (by decide)⟩

theorem isWellFormed_tag (hn : ∀ name ∈ w.names, isIdentifier name = true) (c : Category) :
    (w.tag c).IsWellFormed := by
  obtain ⟨hcomponent, hrole, hfirst, hsecond⟩ := forall_mem_names.1 hn
  have hlabel : '"' ∉ c.label.toList := by cases c <;> decide
  refine ⟨ne_nil_of_isIdentifier hcomponent, isTagNamePart_of_mem hcomponent, ?_⟩
  simp only [tag, List.mem_cons, List.not_mem_nil, or_false, forall_eq_or_imp, forall_eq]
  exact ⟨⟨ne_nil_of_isIdentifier hrole, isTagNamePart_of_mem hrole, hlabel⟩,
    isWellFormed_passing hfirst, isWellFormed_passing hsecond⟩

/-- **How the opening tag is read**, if the names of the wrapper are identifiers. -/
theorem reads_openingTag_iff (hn : ∀ name ∈ w.names, isIdentifier name = true) {tag : Tag} :
    Tag.Reads (w.openingTag c) tag ↔ tag = w.tag c := by
  have hreads : Tag.Reads (w.openingTag c) (w.tag c) := ⟨isWellFormed_tag hn c, text_tag w c⟩
  constructor
  · exact fun h => h.unique hreads
  · rintro rfl
    exact hreads

/-! ## The names of attributes -/

/-- **The attributes have different names** if neither the role nor a variable is passed through
a second time. -/
theorem nodup_names_iff :
    ((w.tag c).attributes.map (·.name)).Nodup ↔
      w.roleAttribute ∉ [w.passThrough.1, w.passThrough.2] ∧
        w.passThrough.1 ≠ w.passThrough.2 := by
  simp [tag, passing, String.toList_inj]

/-- **The role is bound once**, to the label, unless it is passed through. -/
theorem values_roleAttribute_iff :
    (w.tag c).values w.roleAttribute.toList = [.quoted c.label.toList] ↔
      w.roleAttribute ∉ [w.passThrough.1, w.passThrough.2] := by
  rw [Tag.values, tag, List.filter_cons_of_pos (by simp), List.map_cons]
  simp only [List.cons.injEq, true_and, List.map_eq_nil_iff, List.filter_eq_nil_iff]
  simp [passing, String.toList_inj, eq_comm]

/-! ## Rendered elements -/

theorem tag_inj (h : w.tag c = w'.tag c') : w = w' ∧ c = c' := by
  simp only [tag, passing, Tag.mk.injEq, List.cons.injEq, Attribute.mk.injEq,
    AttributeValue.quoted.injEq, AttributeValue.braced.injEq, String.toList_inj, and_self,
    and_true] at h
  obtain ⟨hcomponent, ⟨hrole, hlabel⟩, hfirst, hsecond⟩ := h
  have hcategory : some c = some c' := by
    rw [← Category.ofLabel?_label, ← Category.ofLabel?_label c', hlabel]
  refine ⟨?_, Option.some.inj hcategory⟩
  cases w
  cases w'
  cases hcomponent
  cases hrole
  exact congrArg _ (Prod.ext hfirst hsecond)

/-- **Wrapper, category and markup are known from the rendered element**, if names are
identifiers. -/
theorem render_inj (hn : ∀ name ∈ w.names, isIdentifier name = true)
    (hn' : ∀ name ∈ w'.names, isIdentifier name = true) (h : w.render c m = w'.render c' m') :
    w = w' ∧ c = c' ∧ m = m' := by
  have htags : (w.tag c).text ++ (innerBreak ++ m ++ outerBreak ++ w.closingTag) =
      (w'.tag c').text ++ (innerBreak ++ m' ++ outerBreak ++ w'.closingTag) := by
    simpa [render, text_tag] using h
  obtain ⟨htag, -⟩ := Tag.text_append_inj (isWellFormed_tag hn c) (isWellFormed_tag hn' c') htags
  obtain ⟨rfl, -⟩ := tag_inj htag
  exact ⟨rfl, render_injective h⟩

/-! ## Accepted wrappers -/

theorem isIdentifier_of_wrapperIssues (hw : Config.wrapperIssues w = []) :
    ∀ name ∈ w.names, isIdentifier name = true := by
  obtain ⟨hcomponent, hrole, hfirst, hsecond, -⟩ := Config.wrapperIssues_eq_nil_iff.1 hw
  simp only [isIdentifier_iff_isName]
  exact forall_mem_names.2 ⟨hcomponent, hrole, hfirst, hsecond⟩

/-- **What an accepted wrapper renders.**

* The opening tag reads in one way: as the element with its three attributes.
* The attributes have different names, and the role is bound to the label alone, exactly if the
  role is not passed through as well.
* Of all that accepted wrappers render, each text is rendered by one, for one category and around
  one markup. -/
theorem accepted_tag (hw : Config.wrapperIssues w = []) (c : Category) :
    (∀ tag, Tag.Reads (w.openingTag c) tag ↔ tag = w.tag c) ∧
    (((w.tag c).attributes.map (·.name)).Nodup ↔
      w.roleAttribute ∉ [w.passThrough.1, w.passThrough.2]) ∧
    ((w.tag c).values w.roleAttribute.toList = [.quoted c.label.toList] ↔
      w.roleAttribute ∉ [w.passThrough.1, w.passThrough.2]) ∧
    ∀ (w' : Wrapper) (c' : Category) (m m' : Text), Config.wrapperIssues w' = [] →
      w.render c m = w'.render c' m' → w = w' ∧ c = c' ∧ m = m' := by
  have hn := isIdentifier_of_wrapperIssues hw
  obtain ⟨-, -, -, -, hpassing⟩ := Config.wrapperIssues_eq_nil_iff.1 hw
  refine ⟨fun tag => reads_openingTag_iff hn, ?_, values_roleAttribute_iff, ?_⟩
  · rw [nodup_names_iff, and_iff_left hpassing]
  · intro w' c' m m' hw' h
    exact render_inj hn (isIdentifier_of_wrapperIssues hw') h

/-- The default wrapper, whose attributes have different names. -/
theorem accepted_tag_default :
    Config.wrapperIssues .default = [] ∧
      Tag.Reads (Wrapper.default.openingTag .coach) (Wrapper.default.tag .coach) ∧
      ((Wrapper.default.tag .coach).attributes.map (·.name)).Nodup ∧
      (Wrapper.default.tag .coach).values "role".toList = [.quoted "coach".toList] ∧
      Wrapper.default.render .coach [] ≠ Wrapper.default.render .client [] := by
  have hissues : Config.wrapperIssues .default = [] := by decide
  obtain ⟨hreads, hnodup, hvalues, hrender⟩ := accepted_tag hissues .coach
  refine ⟨hissues, (hreads _).2 rfl, hnodup.2 (by decide), hvalues.2 (by decide), ?_⟩
  intro h
  exact absurd (hrender _ _ _ _ hissues h).2.1 (by decide)

/-- An accepted wrapper that passes its role through: the role is bound twice. -/
theorem role_bound_twice :
    let w : Wrapper := { Wrapper.default with roleAttribute := "userName" }
    Config.wrapperIssues w = [] ∧
      Tag.Reads (w.openingTag .admin) (w.tag .admin) ∧
      ¬((w.tag .admin).attributes.map (·.name)).Nodup ∧
      (w.tag .admin).values "userName".toList =
        [.quoted "admin".toList, .braced "userName".toList] := by
  intro w
  have hissues : Config.wrapperIssues w = [] := by decide
  have hn := isIdentifier_of_wrapperIssues hissues
  exact ⟨hissues, (reads_openingTag_iff hn).2 rfl, by decide, by decide⟩

end Wrapper

end PageShell
