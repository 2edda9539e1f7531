import PageShell.Text.Basic

/-!
# Page categories and the rules that assign them

A page belongs to one of four categories. Rules decide by the directories that its path runs
through: the first rule whose segment occurs among them names the category.

Results:

* `Category.ofLabel?_label`: the label of a category reads back as the category.
* `classify_cons`: a rule table is read from the front.
-/

namespace PageShell

/-- The areas of the application, each with its own navigation. -/
inductive Category
  | admin
  | coach
  | client
  | collaboratore
  deriving DecidableEq, Repr

namespace Category

/-- The categories in the order in which the default rules try them. -/
def all : List Category := [admin, coach, client, collaboratore]

/-- The lower-case name of a category, in configurations and in rendered tags. -/
def label : Category → String
  | admin => "admin"
  | coach => "coach"
  | client => "client"
  | collaboratore => "collaboratore"

/-- The category with a given label. -/
def ofLabel? (name : String) : Option Category := all.find? (·.label == name)

@[simp] theorem ofLabel?_label (c : Category) : ofLabel? c.label = some c := by
  cases c <;> rfl

end Category

/-- A rule gives `category` to the paths that run through the directory `segment`. -/
structure Rule where
  category : Category
  segment : String
  deriving DecidableEq, Repr

namespace Rule

/-- One rule for each category, whose segment is the label of the category. -/
def defaults : List Rule := Category.all.map fun c => ⟨c, c.label⟩

/-! ## Matching -/

/-- A path with `/` as its only separator. -/
def normalize (path : Text) : Text := path.map fun c => if c = '\\' then '/' else c

/-- A rule matches a path that has `/segment/` in it once the path is normalized and begins
with `/`. A rule with an empty segment matches nothing. -/
def isMatch (rule : Rule) (path : String) : Bool :=
  let segment := rule.segment.toList
  !segment.isEmpty && Text.occurs ('/' :: segment ++ ['/']) ('/' :: normalize path.toList)

/-- The directories that a path runs through, between separators of either kind and without
the file name. -/
def directories (path : String) : List Text :=
  (Text.fields (fun c => c == '/' || c == '\\') path.toList).dropLast

end Rule

/-- The category of the first rule that matches the path, or else the default category. -/
def classify (rules : List Rule) (default : Category) (path : String) : Category :=
  ((rules.find? (·.isMatch path)).map Rule.category).getD default

theorem classify_cons (rule : Rule) (rules : List Rule) (default : Category) (path : String) :
    classify (rule :: rules) default path =
      if rule.isMatch path then rule.category else classify rules default path := by
  unfold classify
  cases h : rule.isMatch path <;> simp [h]

end PageShell
