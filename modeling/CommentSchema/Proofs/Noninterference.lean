import CommentSchema.Proofs.Reading

/-! What a run answers and what it writes into a definition does not depend on that definition:
of two definitions with the same comment, each keeps what the comment does not speak of, and
all else becomes the same in both. -/

namespace CommentSchema

namespace Definition

/-- What a comment that does not replace its definition leaves in it. -/
structure KeptBy (comment : Text) (before after : Definition) : Prop where
  type : after.type = before.type
  ref : after.ref = before.ref
  format : after.format = before.format
  nullable : after.nullable = before.nullable
  items : after.items = before.items
  additionalProperties : after.additionalProperties = before.additionalProperties
  enum : after.enum = before.enum.or (Comment.blockValues? comment)
  default : (Comment.clauses comment).default? = none → after.default = before.default
  oneOf : (Comment.clauses comment).oneOf? = none → after.oneOf = before.oneOf
  examples : (Comment.clauses comment).example? = none → after.examples = before.examples

/-- What the clauses of a comment make the same in two definitions. -/
structure JoinedBy (comment : Text) (first second : Definition) : Prop where
  default : (Comment.clauses comment).default?.isSome → first.default = second.default
  oneOf : (Comment.clauses comment).oneOf?.isSome → first.oneOf = second.oneOf
  examples : (Comment.clauses comment).example?.isSome → first.examples = second.examples

end Definition

namespace Reading

variable {reading : Reading}

theorem enter_eq_of_noDerive (replaces : reading.info.noDerive = true)
    (first second : Definition) : reading.enter first = reading.enter second := by
  unfold enter
  cases shape : reading.shape with
  | replaced definition => rfl
  | declared | alternatives => simp [info, shape, Shape.noDerive] at replaces

theorem noDerive_eq {type? : Option Text} {oneOf? : Option (List Text)}
    (comes : reading.shape.ComesFrom type? oneOf?) : reading.info.noDerive = type?.isSome := by
  unfold info
  cases shape : reading.shape with
  | replaced definition =>
      rw [shape] at comes
      exact comes.1.symm
  | declared | alternatives =>
      rw [shape] at comes
      rw [comes.1]
      rfl

end Reading

namespace Interpreter

variable {interpreter : Interpreter} {raw : Option Text} {comment : Text} {reading : Reading}

theorem keptBy_enter (read : interpreter.reading raw comment = .ok reading)
    (keeps : (Comment.clauses comment).type? = none) (definition : Definition) :
    definition.KeptBy comment (reading.enter definition) := by
  obtain ⟨values, present, comes, payload⟩ := reading_ok read
  have enum : definition.enum.or reading.values? =
      definition.enum.or (Comment.blockValues? comment) := congrArg _ values
  have default : (Comment.clauses comment).default? = none →
      reading.default?.getD definition.default = definition.default := by
    intro absent
    have unread : reading.default? = none := by simpa [absent] using present
    rw [unread]
    rfl
  have examples : (Comment.clauses comment).example? = none →
      (reading.example?.map ([·])).getD definition.examples = definition.examples := by
    intro absent
    rw [payload, absent]
    rfl
  unfold Reading.enter
  cases shape : reading.shape with
  | replaced replacement =>
      rw [shape, keeps] at comes
      cases comes.1
  | declared =>
      exact ⟨rfl, rfl, rfl, rfl, rfl, rfl, enum, default, fun _ => rfl, examples⟩
  | alternatives oneOf =>
      rw [shape] at comes
      refine ⟨rfl, rfl, rfl, rfl, rfl, rfl, enum, default, fun absent => ?_, examples⟩
      have present := comes.2
      rw [absent] at present
      cases present

theorem joinedBy_enter (read : interpreter.reading raw comment = .ok reading)
    (keeps : (Comment.clauses comment).type? = none) (first second : Definition) :
    Definition.JoinedBy comment (reading.enter first) (reading.enter second) := by
  obtain ⟨-, present, comes, payload⟩ := reading_ok read
  have default : (Comment.clauses comment).default?.isSome →
      reading.default?.getD first.default = reading.default?.getD second.default := by
    intro found
    obtain ⟨value, same⟩ := Option.isSome_iff_exists.mp (present.trans found)
    rw [same]
    rfl
  have examples : (Comment.clauses comment).example?.isSome →
      (reading.example?.map ([·])).getD first.examples =
        (reading.example?.map ([·])).getD second.examples := by
    intro found
    obtain ⟨text, same⟩ := Option.isSome_iff_exists.mp found
    rw [payload, same]
    rfl
  unfold Reading.enter
  cases shape : reading.shape with
  | replaced replacement =>
      rw [shape, keeps] at comes
      cases comes.1
  | declared =>
      rw [shape] at comes
      refine ⟨default, fun found => ?_, examples⟩
      rw [comes.2] at found
      cases found
  | alternatives oneOf => exact ⟨default, fun _ => rfl, examples⟩

/-- Two runs on the same comment answer alike and describe alike.  Where the comment replaces
the definition, they end with the same one; otherwise each definition keeps what the comment
does not speak of, and what a clause gives is the same in both. -/
theorem annotate_noninterference [Dialect] (builder : Builder) (strict : Bool) (raw : Option Text)
    (comment : Text) (first second : Definition) :
    let annotate := (standard builder strict).annotate raw comment
    let clauses := Comment.clauses comment
    (annotate first).2 = (annotate second).2 ∧
      ∀ info, (annotate first).2 = .ok info →
        (annotate first).1.description = (annotate second).1.description ∧
        (annotate first).1.htmlDescription = (annotate second).1.htmlDescription ∧
        info.noDerive = clauses.type?.isSome ∧
        (clauses.type?.isSome → (annotate first).1 = (annotate second).1) ∧
        (clauses.type? = none →
          first.KeptBy comment (annotate first).1 ∧
          second.KeptBy comment (annotate second).1 ∧
          Definition.JoinedBy comment (annotate first).1 (annotate second).1) := by
  intro annotate clauses
  have entered (definition : Definition) :=
    annotate_eq (standard builder strict) raw comment rfl definition
  simp only [annotate, entered]
  -- The reading does not know the definition, so one case distinction serves both runs.
  cases read : (standard builder strict).reading raw comment with
  | error error =>
      refine ⟨rfl, fun info answered => ?_⟩
      cases answered
  | ok reading =>
      refine ⟨rfl, fun info answered => ?_⟩
      cases answered
      obtain ⟨-, -, comes, -⟩ := reading_ok read
      have noDerive := Reading.noDerive_eq comes
      refine ⟨rfl, rfl, noDerive, fun found => ?_, fun keeps => ?_⟩
      · exact Reading.enter_eq_of_noDerive (noDerive.trans found) first second
      · exact ⟨keptBy_enter read keeps first, keptBy_enter read keeps second,
          joinedBy_enter read keeps first second⟩

end Interpreter

end CommentSchema
