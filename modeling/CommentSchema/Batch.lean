import CommentSchema.Interpreter
import CommentSchema.Report

/-! Many fields in one run.  The fields share a list of definitions, and a problem with one
comment is reported and does not stop the others; in strict mode the first one ends the run. -/

namespace CommentSchema

/-- A raw name, a comment, and which of the shared definitions belongs to the field. -/
structure FieldComment (count : Nat) where
  raw : Option Text
  comment : Text
  target : Fin count

structure Batch (count : Nat) where
  definitions : Vector Definition count
  report : Report
  results : List (Option Text × Meta) := []
  skipped : List (Option Text × CommentError) := []

namespace Batch

variable {count : Nat}

/-- Where the field of an error is not named, its raw name stands in. -/
def fieldOf (error : CommentError) (raw : Option Text) : Option Text :=
  if error.field.isEmpty then raw else some error.field

/-- The batch after one more field, and the error that ends it if there is one. -/
def step (interpreter : Interpreter) (batch : Batch count) (field : FieldComment count) :
    Batch count × Option Error :=
  match interpreter.annotate field.raw field.comment batch.definitions[field.target] with
  | (finished, .ok info) =>
      ({ batch with
        definitions := batch.definitions.set field.target finished,
        results := batch.results ++ [(field.raw, info)] }, none)
  | (_, .error (.comment error)) =>
      let batch := { batch with skipped := batch.skipped ++ [(field.raw, error)] }
      match batch.report.note (fieldOf error field.raw) error.message interpreter.strict
          (some (.comment error)) with
      | .ok report => ({ batch with report }, none)
      | .error error => (batch, some error)
  | (_, .error error) => (batch, some error)

def run (interpreter : Interpreter) (batch : Batch count) :
    List (FieldComment count) → Batch count × Option Error
  | [] => (batch, none)
  | field :: rest =>
      match step interpreter batch field with
      | (batch, none) => run interpreter batch rest
      | (batch, some error) => (batch, some error)

def warning : Option Text × CommentError → Text
  | (raw, error) =>
      "Skipping field ".toList ++ raw.getD "None".toList ++ ": ".toList ++ error.message

end Batch

end CommentSchema
