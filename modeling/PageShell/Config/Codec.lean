import PageShell.Config
import PageShell.Data

/-!
# Configurations as structured data

A configuration is a record of named fields. When one is made from data, every field has to be
there and unknown fields are disregarded. Instead of a record, a list of the fields' values in
order is accepted as well.

Results:

* `Category.ofData?_toData`, `Rule.ofData?_toData`, `Wrapper.ofData?_toData`: a part of a
  configuration turned into data is made from it again, in every format.
-/

namespace PageShell

/-- The formats that configurations are read from, which differ in what they let pass. -/
inductive Dialect
  | json
  | toml
  deriving DecidableEq, Repr

namespace Dialect

/-- Whether a list may have more items than are asked for. The surplus is disregarded. -/
def allowsSurplus : Dialect → Bool
  | json => false
  | toml => true

/-- Whether a value says nothing. -/
def isEmptyValue : Dialect → Data → Bool
  | json, .null => true
  | toml, .list [] => true
  | toml, .record [] => true
  | _, _ => false

/-- The first items of a list, as many as are asked for. -/
def take? (dialect : Dialect) (n : Nat) (items : List Data) : Option (List Data) :=
  if items.length = n ∨ (dialect.allowsSurplus ∧ n ≤ items.length) then some (items.take n)
  else none

/-- The values of the fields with some names, of a record or of a list in that order. -/
def fields? (dialect : Dialect) (names : List String) : Data → Option (List Data)
  | .record fields => names.mapM (Data.field? fields)
  | .list items => dialect.take? names.length items
  | _ => none

end Dialect

/-! ## Parts -/

namespace Category

/-- A category as data. -/
def toData (c : Category) : Data := .text c.label

/-- The category that data stand for: its label, or a record with nothing under its label. -/
def ofData? (dialect : Dialect) : Data → Option Category
  | .text s => ofLabel? s
  | .record [(name, value)] => if dialect.isEmptyValue value then ofLabel? name else none
  | _ => none

@[simp] theorem ofData?_toData (dialect : Dialect) (c : Category) :
    ofData? dialect c.toData = some c := ofLabel?_label c

end Category

namespace Rule

/-- A rule as data. -/
def toData (r : Rule) : Data :=
  .record [("category", r.category.toData), ("segment", .text r.segment)]

/-- The rule that data stand for. -/
def ofData? (dialect : Dialect) (d : Data) : Option Rule := do
  match ← dialect.fields? ["category", "segment"] d with
  | [category, segment] => return ⟨← Category.ofData? dialect category, ← segment.text?⟩
  | _ => none

@[simp] theorem ofData?_toData (dialect : Dialect) (r : Rule) :
    ofData? dialect r.toData = some r := by
  simp [ofData?, toData, Dialect.fields?, Data.field?, Data.text?]

end Rule

namespace AnchorSettings

/-- Anchor settings as data. -/
def toData (a : AnchorSettings) : Data :=
  .record [("pattern", .text a.pattern), ("open", .character a.opening),
    ("close", .character a.closing)]

/-- The anchor settings that data stand for. -/
def ofData? (dialect : Dialect) (d : Data) : Option AnchorSettings := do
  match ← dialect.fields? ["pattern", "open", "close"] d with
  | [pattern, opening, closing] =>
    return ⟨← pattern.text?, ← opening.character?, ← closing.character?⟩
  | _ => none

end AnchorSettings

namespace Wrapper

/-- A wrapper as data. -/
def toData (w : Wrapper) : Data :=
  .record [("component", .text w.component), ("role_attribute", .text w.roleAttribute),
    ("pass_through", .list [.text w.passThrough.1, .text w.passThrough.2])]

/-- The pair of names that data stand for. -/
def pairOfData? (dialect : Dialect) : Data → Option (String × String)
  | .list items => do
    match ← dialect.take? 2 items with
    | [first, second] => return (← first.text?, ← second.text?)
    | _ => none
  | _ => none

/-- The wrapper that data stand for. -/
def ofData? (dialect : Dialect) (d : Data) : Option Wrapper := do
  match ← dialect.fields? ["component", "role_attribute", "pass_through"] d with
  | [component, roleAttribute, passThrough] =>
    return ⟨← component.text?, ← roleAttribute.text?, ← pairOfData? dialect passThrough⟩
  | _ => none

@[simp] theorem ofData?_toData (dialect : Dialect) (w : Wrapper) :
    ofData? dialect w.toData = some w := by
  simp [ofData?, toData, Dialect.fields?, Data.field?, Data.text?, pairOfData?, Dialect.take?]

end Wrapper

/-! ## Whole configurations -/

namespace Config

/-- The global settings as data. -/
def settingsData (verbose : Bool) : Data := .record [("verbose", .boolean verbose)]

/-- Whether reports show details, by the global settings. -/
def settingsOfData? (dialect : Dialect) (d : Data) : Option Bool := do
  match ← dialect.fields? ["verbose"] d with
  | [verbose] => verbose.boolean?
  | _ => none

/-- The names of the fields of a configuration. -/
def fieldNames : List String :=
  ["version", "default_category", "files", "rules", "anchor", "wrapper", "global_settings"]

/-- The fields of a configuration as data. -/
def toFields (c : Config) : List (String × Data) :=
  [("version", .text c.version), ("default_category", c.defaultCategory.toData),
    ("files", .list (c.files.map .text)), ("rules", .list (c.rules.map Rule.toData)),
    ("anchor", c.anchor.toData), ("wrapper", c.wrapper.toData),
    ("global_settings", settingsData c.verbose)]

/-- A configuration as data. -/
def toData (c : Config) : Data := .record c.toFields

/-- The configuration that data stand for. -/
def ofData? (dialect : Dialect) (d : Data) : Option Config := do
  match ← dialect.fields? fieldNames d with
  | [version, defaultCategory, files, rules, anchor, wrapper, settings] =>
    return {
      version := ← version.text?
      defaultCategory := ← Category.ofData? dialect defaultCategory
      files := ← (← files.list?).mapM Data.text?
      rules := ← (← rules.list?).mapM (Rule.ofData? dialect)
      anchor := ← AnchorSettings.ofData? dialect anchor
      wrapper := ← Wrapper.ofData? dialect wrapper
      verbose := ← settingsOfData? dialect settings }
  | _ => none

theorem mapM_map_some {α β : Type} (f : α → β) (g : β → Option α) (h : ∀ a, g (f a) = some a)
    (xs : List α) : (xs.map f).mapM g = some xs := by
  induction xs with
  | nil => rfl
  | cons x xs ih => simp [List.mapM_cons, h, ih]

end Config

end PageShell
