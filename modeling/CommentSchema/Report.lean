import CommentSchema.Error

/-! What was wrong with which field, in the order in which it was found. -/

namespace CommentSchema

structure Report where
  entries : List (Option Text × Text) := []
deriving DecidableEq, Repr

namespace Report

def add (report : Report) (field : Option Text) (message : Text) : Report :=
  ⟨report.entries ++ [(field, message)]⟩

@[simp] theorem entries_add (report : Report) (field : Option Text) (message : Text) :
    (report.add field message).entries = report.entries ++ [(field, message)] := rfl

private def line : Option Text × Text → Text
  | (some (c :: name), message) => (c :: name) ++ ": ".toList ++ message
  | (_, message) => message

/-- One line for each entry, with the field in front when it is named. -/
def errors (report : Report) : List Text := report.entries.map line

/-- Every field once, where it first appears. -/
def fields (report : Report) : List (Option Text) :=
  report.entries.foldl
    (fun found (field, _) => if found.contains field then found else found ++ [field]) []

def isValid (report : Report) : Bool := report.entries.isEmpty

def size (report : Report) : Nat := report.entries.length

@[simp] theorem size_add (report : Report) (field : Option Text) (message : Text) :
    (report.add field message).size = report.size + 1 := by
  simp [size]

def summary (report : Report) : Text :=
  "<ValidationResult valid=".toList ++ (if report.isValid then "True" else "False").toList
    ++ " errors=".toList ++ Text.ofNat report.size ++ ['>']

/-- In strict mode an error ends the run; otherwise it is noted. -/
def note (report : Report) (field : Option Text) (message : Text) (strict : Bool)
    (cause : Option Error) : Except Error Report :=
  if strict then .error (cause.getD (.value (.reported message)))
  else .ok (report.add field message)

end Report

end CommentSchema
