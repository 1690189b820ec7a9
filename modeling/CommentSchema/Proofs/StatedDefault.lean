import CommentSchema.Definition.Schema
import CommentSchema.Proofs.Reading
import Mathlib.Control.Monad.Basic
import Mathlib.Data.List.Basic

/-! The default of a comment, from its literal to the schema.  The null value stands for no
default at all, in a definition as in its schema, so a comment that states null as the default
leaves no mark in the schema; every other value is found there as it was read. -/

namespace CommentSchema

namespace Reading

variable {reading : Reading}

theorem default_enter (keeps : ∀ replacement, reading.shape ≠ .replaced replacement)
    (definition : Definition) :
    (reading.enter definition).default = reading.default?.getD definition.default := by
  unfold enter
  cases shape : reading.shape with
  | replaced replacement => exact absurd shape (keeps replacement)
  | declared | alternatives => rfl

end Reading

namespace Interpreter

section

variable [Dialect] {builder : Builder} {strict : Bool} {raw : Option Text} {comment : Text}

/-- The default that was read is the value of the literal in the default clause. -/
theorem default?_of_reading {reading : Reading}
    (read : (standard builder strict).reading raw comment = .ok reading) :
    Option.Rel (fun literal value => Literal.read literal = .ok value)
      (Comment.clauses comment).default? reading.default? := by
  obtain ⟨_, _, _, _, _, _, -, readDefault, -, -, rfl, -⟩ := steps_of_reading read
  exact (readDefault_eq_ok.mp readDefault).2

/-- In the definition that a run ends with, the stated default takes the place of the one that
was there. -/
theorem default_annotate {definition : Definition} {info : Meta}
    (done : ((standard builder strict).annotate raw comment definition).2 = .ok info)
    (keeps : (Comment.clauses comment).type? = none) :
    ∃ value?, Option.Rel (fun literal value => Literal.read literal = .ok value)
        (Comment.clauses comment).default? value? ∧
      ((standard builder strict).annotate raw comment definition).1.default =
        value?.getD definition.default := by
  rw [annotate_eq _ raw comment rfl] at done ⊢
  cases read : (standard builder strict).reading raw comment with
  | error error =>
      rw [read] at done
      cases done
  | ok reading =>
      obtain ⟨-, -, comes, -⟩ := reading_ok read
      rw [keeps] at comes
      refine ⟨reading.default?, default?_of_reading read, Reading.default_enter ?_ definition⟩
      intro replacement replaced
      rw [replaced] at comes
      cases comes.1

/-- A default that is not null is in the schema under its key, as the literal denotes it; the
key of a null default is left out.  Where there was no default before, the schema has the key
if and only if the comment states a default other than null. -/
theorem schemaValue?_default_annotate {definition : Definition} {info : Meta}
    (done : ((standard builder strict).annotate raw comment definition).2 = .ok info)
    (keeps : (Comment.clauses comment).type? = none) :
    let after := ((standard builder strict).annotate raw comment definition).1
    (∀ literal ∈ (Comment.clauses comment).default?, ∃ value,
      Literal.read literal = .ok value ∧ after.default = value ∧
        after.schemaValue? .default = value.present?) ∧
    (definition.default = .null →
      ((after.schemaValue? .default).isSome ↔
        ∃ literal ∈ (Comment.clauses comment).default?, ∃ value,
          Literal.read literal = .ok value ∧ value ≠ .null)) := by
  intro after
  obtain ⟨value?, reads, default⟩ := default_annotate done keeps
  change after.default = _ at default
  rw [Definition.schemaValue?_default, default]
  generalize (Comment.clauses comment).default? = literal? at reads
  cases reads with
  | none => simp +contextual [Value.present?]
  | some read => simp [read, Value.isSome_present?]

end

def defaultFalse : Text := "A is x. Defaults to \x60false\x60.".toList

def defaultNull : Text := "A is x. Defaults to \x60null\x60.".toList

theorem schemaValue?_default_annotate_defaultFalse :
    ((standard {} false).annotate (some "A".toList) defaultFalse {}).2 = .ok {} ∧
      (Comment.clauses defaultFalse).type? = none ∧
      (Comment.clauses defaultFalse).default? = some "false".toList ∧
      ((standard {} false).annotate (some "A".toList) defaultFalse {}).1.schemaValue? .default =
        some (.bool false) := by
  have done : ((standard {} false).annotate (some "A".toList) defaultFalse {}).2 = .ok {} := by
    decide +kernel
  have keeps : (Comment.clauses defaultFalse).type? = none := by decide +kernel
  have stated : (Comment.clauses defaultFalse).default? = some "false".toList := by
    decide +kernel
  obtain ⟨value, read, -, entry⟩ :=
    (schemaValue?_default_annotate done keeps).1 "false".toList stated
  have denoted : Literal.read "false".toList = .ok (.bool false) := by cbv
  cases denoted.symm.trans read
  exact ⟨done, keeps, stated, entry⟩

/-- The schema of a field with a null default is that of a field without one. -/
theorem toSchema_annotate_defaultNull :
    ((standard {} false).annotate (some "A".toList) defaultNull {}).2 = .ok {} ∧
      (Comment.clauses defaultNull).type? = none ∧
      (Comment.clauses defaultNull).default? = some "null".toList ∧
      Literal.read "null".toList = .ok .null ∧
      ((standard {} false).annotate (some "A".toList) defaultNull {}).1.schemaValue? .default =
        none ∧
      (Comment.clauses "A is x.".toList).default? = none ∧
      ((standard {} false).annotate (some "A".toList) defaultNull {}).1.toSchema.same
        ((standard {} false).annotate (some "A".toList) "A is x.".toList {}).1.toSchema = true := by
  exact ⟨by decide +kernel, by decide +kernel, by decide +kernel, by cbv, by decide +kernel,
    by decide +kernel, by decide +kernel⟩

end Interpreter

end CommentSchema
