import CommentSchema.Error
import CommentSchema.Expr.Parser
import CommentSchema.Expr.Printer
import CommentSchema.Text.Blank

/-! Type expressions: texts that are a single expression, nested no deeper than it can be
taken apart. -/

namespace CommentSchema.TypeExpr

def refuse (problem : Problem) (text : Text) : Except Error Expr :=
  .error (.comment ⟨problem, [], some text⟩)

/-- The text is no expression. -/
def refuseMalformed [Dialect] (text : Text) : Except Error Expr :=
  refuse (.typeMalformed text (Dialect.complaint (Text.trim text))) text

/-- A null character is met before the notation is. -/
def refuseNull [Dialect] (text : Text) : Except Error Expr :=
  if Dialect.nullUnfit then .error (.value .nullCharacter) else refuseMalformed text

def parse [Dialect] (text : Text) : Except Error Expr :=
  if Text.isAllBlank text then refuse .typeEmpty text
  else if text.contains '\x00' then refuseNull text
  else
    match Expr.read? (Text.trim text) with
    | none => refuseMalformed text
    | some expr =>
        if expr.depth > Expr.depthLimit then refuse (.typeTooDeep text) text else .ok expr

theorem parse_cases [Dialect] (text : Text) :
    (∃ problem, parse text = refuse problem text) ∨
      (Dialect.nullUnfit = true ∧ parse text = .error (.value .nullCharacter)) ∨
      ∃ expr, Expr.read? (Text.trim text) = some expr ∧ parse text = .ok expr := by
  unfold parse
  split
  · exact .inl ⟨_, rfl⟩
  · split
    · unfold refuseNull
      split
      · next unfit => exact .inr (.inl ⟨unfit, rfl⟩)
      · exact .inl ⟨_, rfl⟩
    · split
      · exact .inl ⟨_, rfl⟩
      · next expr read =>
          split
          · exact .inl ⟨_, rfl⟩
          · exact .inr (.inr ⟨expr, read, rfl⟩)

/-- What is torn cannot be read at all. -/
def tornError (content : Torn) : Error :=
  .value (.unencodable (content.points.dropWhile fun point => point.char?.any Text.isBlank))

def print (expr : Expr) : Except Error Text :=
  match expr.print with
  | .ok text => .ok text
  | .error .tooDeep => .error .depthExceeded
  | .error .tooManyDigits => .error (.value .unwritableNumber)
  | .error .backslashInField => .error (.value .unwritableField)

end CommentSchema.TypeExpr
