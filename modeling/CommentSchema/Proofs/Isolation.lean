import CommentSchema.Batch
import CommentSchema.Proofs.Escape
import Mathlib.Data.List.Basic

/-! The comments of a batch are isolated from one another.  A problem with a comment is reported
and the next field has its turn; a run ends early only with a comment that is hollow or that
breaks, and which fields do is settled by their comments alone. -/

namespace CommentSchema

open Error (escapes)

variable {count : Nat}

/-- The comment of a field breaks, whatever the definition of the field. -/
def FieldComment.Breaks [Dialect] (builder : Builder) (field : FieldComment count)
    (error : Error) : Prop :=
  builder.CommentBreaks (Reference.interpret field.raw).2 (Reference.interpret field.raw).1
    field.comment error

namespace Batch

/-- No comment has kept others from their turn, except for a list of types without entries. -/
def Isolated (ended : Option Error) : Prop :=
  ended = none ∨ ∃ description, ended = some (.oneOfWithoutEntries description)

def ending : Except Error α → Option Error
  | .ok _ | .error (.comment _) => none
  | .error error => some error

theorem ending_eq_some {outcome : Except Error α} {error : Error} :
    ending outcome = some error ↔ FailsWith escapes outcome error := by
  unfold ending
  split
  · simp [FailsWith.ok_iff]
  · simp [FailsWith.error_iff, escapes]
  · next fault foreign =>
      have isForeign : escapes fault = true := by
        cases fault with
        | comment error => exact absurd rfl (foreign error)
        | _ => rfl
      simp only [FailsWith.error_iff, isForeign, true_and, Option.some.injEq, eq_comm]

section

variable [Dialect] {builder : Builder} {batch : Batch count} {field : FieldComment count}
  {error : Error}

/-- What ends a batch at a field is settled by the comment of that field. -/
theorem step_ending (builder : Builder) (batch : Batch count) (field : FieldComment count) :
    (step (.standard builder false) batch field).2 =
      ending ((Interpreter.standard builder false).reading field.raw field.comment) := by
  have entered (definition : Definition) :=
    Interpreter.annotate_eq (.standard builder false) field.raw field.comment rfl definition
  simp only [step, entered]
  cases (Interpreter.standard builder false).reading field.raw field.comment with
  | ok reading => rfl
  | error fault =>
      cases fault with
      | _ => rfl

theorem run_ending (builder : Builder) (batch : Batch count) (fields : List (FieldComment count)) :
    (run (.standard builder false) batch fields).2 = fields.findSome? fun field =>
      ending ((Interpreter.standard builder false).reading field.raw field.comment) := by
  induction fields generalizing batch with
  | nil => rfl
  | cons field rest ih =>
      rw [run, List.findSome?_cons, ← step_ending builder batch field]
      rcases step (.standard builder false) batch field with ⟨after, error?⟩
      cases error? with
      | some error => rfl
      | none => exact ih after

theorem ending_reading_eq_some (builder : Builder) (field : FieldComment count) (error : Error) :
    ending ((Interpreter.standard builder false).reading field.raw field.comment) = some error ↔
      (Comment.Hollow field.comment ∧
        error = .oneOfWithoutEntries (Comment.typeText field.comment)) ∨
      field.Breaks builder error := by
  rw [ending_eq_some, Interpreter.escapes_reading rfl]
  rfl

theorem breaks_kind (breaks : field.Breaks builder error) :
    error = .overflow ∨ error = .index ∨ ∃ fault, error = .value fault := by
  cases breaks with
  | default => exact .inl rfl
  | override _ _ breaks | oneOf _ _ _ breaks =>
      obtain ⟨expr, -, -, -, breaks⟩ := breaks
      exact .inr breaks.index_or_value

theorem not_isolated_of_breaks (breaks : field.Breaks builder error) :
    ¬ Isolated (some error) := by
  intro isolated
  rcases isolated with ⟨⟨⟩⟩ | ⟨description, same⟩
  cases same
  rcases breaks_kind breaks with same | same | ⟨fault, same⟩ <;> cases same

/-- The first comment that ends a batch decides how it ends. -/
theorem isolated_findSome? {fields : List (FieldComment count)} :
    Isolated (fields.findSome? fun field =>
        ending ((Interpreter.standard builder false).reading field.raw field.comment)) ↔
      ¬ Meets (fun field => ¬ Comment.Hollow field.comment)
        (fun field => ∃ error, field.Breaks builder error) fields := by
  induction fields with
  | nil => exact iff_of_true (.inl rfl) not_meets_nil
  | cons field rest ih =>
      have ends (error : Error) := ending_reading_eq_some builder field error
      rw [meets_cons, List.findSome?_cons]
      cases ended : ending ((Interpreter.standard builder false).reading field.raw
          field.comment) with
      | none =>
          have unending (error : Error) : ¬ _ := fun ending => nomatch
            ended.symm.trans ((ends error).mpr ending)
          have sound : ¬ Comment.Hollow field.comment := fun hollow =>
            unending _ (.inl ⟨hollow, rfl⟩)
          have whole : ¬ ∃ error, field.Breaks builder error := fun ⟨error, breaks⟩ =>
            unending error (.inr breaks)
          simp only [ih, sound, whole, not_false_eq_true, true_and, false_or]
      | some error =>
          rcases (ends error).mp ended with ⟨hollow, rfl⟩ | breaks
          · refine iff_of_true (.inr ⟨_, rfl⟩) ?_
            intro meets
            rcases meets with ⟨error, breaks⟩ | ⟨sound, -⟩
            · have same := ended.symm.trans ((ends error).mpr (.inr breaks))
              exact not_isolated_of_breaks breaks (.inr ⟨_, same.symm⟩)
            · exact sound hollow
          · refine iff_of_false (not_isolated_of_breaks breaks) ?_
            exact fun spared => spared (.inl ⟨error, breaks⟩)

end

def bareField : FieldComment 2 :=
  { raw := some "A".toList
    comment := "A is x. Schema type is \x60list[()]\x60.".toList
    target := 0 }

def plainField : FieldComment 2 :=
  { raw := some "B".toList, comment := "B is y.".toList, target := 1 }

theorem bareField_breaks : bareField.Breaks {} .index := by
  have parsed : TypeExpr.parse "list[()]".toList =
      .ok (.subscript (.name "list".toList) (.tuple [])) := by with_unfolding_all rfl
  have array : Builder.generic? (.name "list".toList) = .ok (some .array) := rfl
  have reaches : Comment.ReachesType bareField.comment := by
    have noDefault : (Comment.clauses bareField.comment).default? = none := by decide
    refine ⟨⟨none, by decide⟩, fun literal stated => ?_⟩
    rw [noDefault] at stated
    cases stated
  have stated : (Comment.clauses bareField.comment).type? = some "list[()]".toList := by decide
  exact .override reaches stated ⟨_, parsed, rfl, rfl, .unapplied array (.inl rfl) rfl⟩

end Batch

end CommentSchema
