import CommentSchema.Proofs.Isolation

/-! A batch is the sequence of its single runs.  Without strictness it goes on past every
problem with a comment, and the fields with a problem might as well not be there; with
strictness it ends at the first of them. -/

namespace CommentSchema

variable {count : Nat}

/-- A field of a batch and what its run has ended with. -/
structure Answer (count : Nat) where
  field : FieldComment count
  outcome : Except Error Meta

namespace Answer

def result? (answer : Answer count) : Option (Option Text × Meta) :=
  match answer.outcome with
  | .ok info => some (answer.field.raw, info)
  | .error _ => none

def problem? (answer : Answer count) : Option CommentError :=
  match answer.outcome with
  | .error (.comment error) => some error
  | _ => none

def reported? (answer : Answer count) : Option (Option Text × Text) :=
  answer.problem?.map fun error => (Batch.fieldOf error answer.field.raw, error.message)

def skip? (answer : Answer count) : Option (Option Text × CommentError) :=
  answer.problem?.map fun error => (answer.field.raw, error)

def succeeds (answer : Answer count) : Bool := answer.result?.isSome

theorem succeeds_iff {answer : Answer count} :
    answer.succeeds ↔ ∃ info, answer.outcome = .ok info := by
  unfold succeeds result?
  cases answer.outcome with
  | ok info => simp
  | error error => simp

theorem reported?_eq_none {answer : Answer count} (success : answer.succeeds) :
    answer.reported? = none := by
  obtain ⟨info, succeeded⟩ := succeeds_iff.mp success
  simp [reported?, problem?, succeeded]

theorem filterMap_result?_succeeding (answers : List (Answer count)) :
    (answers.filter (·.succeeds)).filterMap (·.result?) = answers.filterMap (·.result?) := by
  induction answers with
  | nil => rfl
  | cons answer rest ih =>
      cases result : answer.result? with
      | none =>
          have fails : ¬ answer.succeeds := by simp [succeeds, result]
          rw [List.filter_cons_of_neg fails, List.filterMap_cons_none result, ih]
      | some found =>
          have success : answer.succeeds := by simp [succeeds, result]
          rw [List.filter_cons_of_pos success, List.filterMap_cons_some result,
            List.filterMap_cons_some result, ih]

end Answer

namespace Interpreter

variable (interpreter : Interpreter)

/-- A run for one field, on the definitions that the fields share. -/
def annotateField (definitions : Vector Definition count) :
    FieldComment count → Vector Definition count × Except Error Meta
  | ⟨raw, comment, target⟩ =>
      let (finished, outcome) := interpreter.annotate raw comment definitions[target]
      (definitions.set target finished, outcome)

/-- A run for each field in turn, whatever the ones before have ended with. -/
def annotateFields (definitions : Vector Definition count) :
    List (FieldComment count) → Vector Definition count × List (Answer count)
  | [] => (definitions, [])
  | field :: rest =>
      let (between, outcome) := interpreter.annotateField definitions field
      let (finished, others) := annotateFields between rest
      (finished, ⟨field, outcome⟩ :: others)

variable {interpreter}

theorem annotateField_of_error {definitions : Vector Definition count}
    {field : FieldComment count} {error : Error}
    (failed : (interpreter.annotateField definitions field).2 = .error error) :
    (interpreter.annotateField definitions field).1 = definitions := by
  have kept := annotate_of_error failed
  rw [Fin.getElem_fin] at kept
  simp [annotateField, kept]

/-- The fields that fail leave no trace: without them the others answer as before. -/
theorem annotateFields_succeeding (definitions : Vector Definition count)
    (fields : List (FieldComment count)) :
    let ran := interpreter.annotateFields definitions fields
    interpreter.annotateFields definitions ((ran.2.filter (·.succeeds)).map (·.field)) =
      (ran.1, ran.2.filter (·.succeeds)) := by
  induction fields generalizing definitions with
  | nil => rfl
  | cons field rest ih =>
      have others := ih (interpreter.annotateField definitions field).1
      simp only [annotateFields]
      cases outcome : (interpreter.annotateField definitions field).2 with
      | ok info =>
          rw [List.filter_cons_of_pos (Answer.succeeds_iff.mpr ⟨info, rfl⟩), List.map_cons]
          simp only [annotateFields, others, outcome]
      | error error =>
          have fails : ¬ (Answer.mk field (.error error)).succeeds := by
            simp [Answer.succeeds, Answer.result?]
          rw [annotateField_of_error outcome] at others ⊢
          rw [List.filter_cons_of_neg fails]
          exact others

end Interpreter

namespace Batch

/-- The batch after some fields have given their answers and have left these definitions. -/
def after (batch : Batch count) (ran : Vector Definition count × List (Answer count)) :
    Batch count :=
  { definitions := ran.1
    report := ⟨batch.report.entries ++ ran.2.filterMap (·.reported?)⟩
    results := batch.results ++ ran.2.filterMap (·.result?)
    skipped := batch.skipped ++ ran.2.filterMap (·.skip?) }

/-- The error with which a batch ends at a field; in strict mode a problem with a comment is
one. -/
def stop? (strict : Bool) (outcome : Except Error α) : Option Error :=
  match strict, outcome with
  | true, .error error => some error
  | _, outcome => ending outcome

theorem after_nil (batch : Batch count) : batch.after (batch.definitions, []) = batch := by
  simp [after]

theorem after_after (batch : Batch count) (first second : Vector Definition count)
    (answers others : List (Answer count)) :
    (batch.after (first, answers)).after (second, others) =
      batch.after (second, answers ++ others) := by
  simp [after, List.filterMap_append, List.append_assoc]

section

variable {interpreter : Interpreter} {batch : Batch count} {field : FieldComment count}

/-- What a batch does at a field, by what the run for that field ends with. -/
theorem step_eq (interpreter : Interpreter) (batch : Batch count) (field : FieldComment count) :
    step interpreter batch field =
      match (interpreter.annotateField batch.definitions field).2 with
      | .ok info =>
          ({ batch with
            definitions := (interpreter.annotateField batch.definitions field).1,
            results := batch.results ++ [(field.raw, info)] }, none)
      | .error (.comment error) =>
          let batch := { batch with skipped := batch.skipped ++ [(field.raw, error)] }
          if interpreter.strict then (batch, some (.comment error))
          else ({ batch with
            report := batch.report.add (fieldOf error field.raw) error.message }, none)
      | .error error => (batch, some error) := by
  obtain ⟨raw, comment, target⟩ := field
  simp only [step, Interpreter.annotateField]
  rcases interpreter.annotate raw comment batch.definitions[target] with ⟨finished, outcome⟩
  cases outcome with
  | ok info => rfl
  | error error =>
      cases error with
      | comment error => cases strict : interpreter.strict <;> simp [Report.note]
      | _ => rfl

theorem step_stop? (interpreter : Interpreter) (batch : Batch count) (field : FieldComment count) :
    (step interpreter batch field).2 =
      stop? interpreter.strict (interpreter.annotateField batch.definitions field).2 := by
  rw [step_eq]
  cases (interpreter.annotateField batch.definitions field).2 with
  | ok info => cases interpreter.strict <;> rfl
  | error error =>
      cases error with
      | comment error => cases interpreter.strict <;> rfl
      | _ => cases interpreter.strict <;> rfl

theorem step_of_goesOn
    (goesOn : stop? interpreter.strict
      (interpreter.annotateField batch.definitions field).2 = none) :
    step interpreter batch field =
      (batch.after ((interpreter.annotateField batch.definitions field).1,
        [⟨field, (interpreter.annotateField batch.definitions field).2⟩]), none) := by
  refine Prod.ext ?_ ((step_stop? interpreter batch field).trans goesOn)
  rw [step_eq]
  cases outcome : (interpreter.annotateField batch.definitions field).2 with
  | ok info => simp [after, Answer.result?, Answer.reported?, Answer.skip?, Answer.problem?]
  | error error =>
      rw [Interpreter.annotateField_of_error outcome]
      rw [outcome] at goesOn
      cases strict : interpreter.strict with
      | true =>
          rw [strict] at goesOn
          cases goesOn
      | false =>
          cases error with
          | comment error =>
              simp [after, Report.add, Answer.result?, Answer.reported?, Answer.skip?,
                Answer.problem?]
          | _ =>
              rw [strict] at goesOn
              cases goesOn

/-- A batch ends at the first field whose run ends with an error that stops it. -/
theorem run_stop? (interpreter : Interpreter) (batch : Batch count)
    (fields : List (FieldComment count)) :
    (run interpreter batch fields).2 =
      (interpreter.annotateFields batch.definitions fields).2.findSome? fun answer =>
        stop? interpreter.strict answer.outcome := by
  induction fields generalizing batch with
  | nil => rfl
  | cons field rest ih =>
      simp only [run, Interpreter.annotateFields, List.findSome?_cons]
      cases stops : stop? interpreter.strict
          (interpreter.annotateField batch.definitions field).2 with
      | none =>
          rw [step_of_goesOn stops]
          exact ih _
      | some error =>
          have ended := (step_stop? interpreter batch field).trans stops
          rcases stepped : step interpreter batch field with ⟨between, error?⟩
          rw [stepped] at ended
          cases ended
          rfl

/-- A batch that nothing stops has taken up the answers of all of its fields. -/
theorem run_of_goesOn {fields : List (FieldComment count)}
    (goesOn : ∀ answer ∈ (interpreter.annotateFields batch.definitions fields).2,
      stop? interpreter.strict answer.outcome = none) :
    run interpreter batch fields =
      (batch.after (interpreter.annotateFields batch.definitions fields), none) := by
  induction fields generalizing batch with
  | nil => rw [run, Interpreter.annotateFields, after_nil]
  | cons field rest ih =>
      simp only [Interpreter.annotateFields, List.forall_mem_cons] at goesOn
      rw [run, step_of_goesOn goesOn.1]
      refine Eq.trans (ih ?_) (congrArg (·, none) (after_after ..))
      exact goesOn.2

theorem run_append {before rest : List (FieldComment count)}
    (goesOn : (run interpreter batch before).2 = none) :
    run interpreter batch (before ++ rest) =
      run interpreter (run interpreter batch before).1 rest := by
  induction before generalizing batch with
  | nil => rfl
  | cons field before ih =>
      rw [run] at goesOn
      rw [List.cons_append, run, run]
      rcases stepped : step interpreter batch field with ⟨between, error?⟩
      rw [stepped] at goesOn
      cases error? with
      | none => exact ih goesOn
      | some error => cases goesOn

theorem stop?_of_succeeds {answer : Answer count} (strict : Bool) (success : answer.succeeds) :
    stop? strict answer.outcome = none := by
  obtain ⟨info, succeeded⟩ := Answer.succeeds_iff.mp success
  rw [succeeded]
  cases strict <;> rfl

/-- Where every field succeeds, nothing is reported, in strict mode as otherwise. -/
theorem run_of_succeeds {fields : List (FieldComment count)}
    (succeed : ∀ answer ∈ (interpreter.annotateFields batch.definitions fields).2,
      answer.succeeds) :
    run interpreter batch fields =
      ({ batch with
        definitions := (interpreter.annotateFields batch.definitions fields).1
        results := batch.results ++
          (interpreter.annotateFields batch.definitions fields).2.filterMap (·.result?) },
        none) := by
  have unreported : (interpreter.annotateFields batch.definitions fields).2.filterMap
      (·.reported?) = [] := by
    rw [List.filterMap_eq_nil_iff]
    exact fun answer member => Answer.reported?_eq_none (succeed answer member)
  have unskipped : (interpreter.annotateFields batch.definitions fields).2.filterMap
      (·.skip?) = [] := by
    rw [List.filterMap_eq_nil_iff]
    intro answer member
    obtain ⟨info, succeeded⟩ := Answer.succeeds_iff.mp (succeed answer member)
    simp [Answer.skip?, Answer.problem?, succeeded]
  rw [run_of_goesOn fun answer member => stop?_of_succeeds _ (succeed answer member)]
  simp [after, unreported, unskipped]

/-- A batch is the sequence of its single runs.  Without strictness, unless an error that is
not about a comment ends it, it takes up all of their answers, and the fields that fail might
as well be left out.  In strict mode the first field that fails ends it with its own error, and
all that has happened is the success of the fields before. -/
theorem run_eq_sequence (interpreter : Interpreter) (batch : Batch count)
    (fields : List (FieldComment count)) :
    let ran := interpreter.annotateFields batch.definitions fields
    let ended := run interpreter batch fields
    (interpreter.strict = false →
      ended.2 = (ran.2.findSome? fun answer => ending answer.outcome) ∧
      (ended.2 = none →
        ended.1.definitions = ran.1 ∧
        ended.1.results = batch.results ++ ran.2.filterMap (·.result?) ∧
        ended.1.report.entries = batch.report.entries ++ ran.2.filterMap (·.reported?) ∧
        let kept := (ran.2.filter (·.succeeds)).map (·.field)
        run interpreter batch kept =
          ({ batch with definitions := ended.1.definitions, results := ended.1.results },
            none))) ∧
    (interpreter.strict = true → ∀ before field after error,
      fields = before ++ field :: after →
      let earlier := interpreter.annotateFields batch.definitions before
      (∀ answer ∈ earlier.2, answer.succeeds) →
      (interpreter.annotateField earlier.1 field).2 = .error (.comment error) →
        ended.2 = some (.comment error) ∧
        ended.1.definitions = earlier.1 ∧
        ended.1.results = batch.results ++ earlier.2.filterMap (·.result?) ∧
        ended.1.report = batch.report) := by
  intro ran ended
  refine ⟨fun lenient => ⟨?_, fun goesOn => ?_⟩, fun strict before field after error same => ?_⟩
  · simp only [ended, run_stop?, lenient]
    rfl
  · have passed : ∀ answer ∈ ran.2, stop? interpreter.strict answer.outcome = none := by
      simp only [ended, run_stop?, List.findSome?_eq_none_iff] at goesOn
      exact goesOn
    have whole : ended = (batch.after ran, none) := run_of_goesOn passed
    rw [whole]
    refine ⟨rfl, rfl, rfl, ?_⟩
    intro kept
    have others : interpreter.annotateFields batch.definitions kept =
        (ran.1, ran.2.filter (·.succeeds)) :=
      Interpreter.annotateFields_succeeding batch.definitions fields
    have succeed : ∀ answer ∈ (interpreter.annotateFields batch.definitions kept).2,
        answer.succeeds := by
      rw [others]
      exact fun answer member => (List.mem_filter.mp member).2
    rw [run_of_succeeds succeed, others, Answer.filterMap_result?_succeeding]
    rfl
  · intro earlier succeed failed
    have first := run_of_succeeds succeed
    have stopped : ended = ({ batch with
        definitions := earlier.1
        results := batch.results ++ earlier.2.filterMap (·.result?)
        skipped := batch.skipped ++ [(field.raw, error)] }, some (.comment error)) := by
      simp only [ended, same, run_append (show (run interpreter batch before).2 = none by
        rw [first])]
      rw [first, run, step_eq, failed, strict]
      rfl
    rw [stopped]
    exact ⟨rfl, rfl, rfl, rfl⟩

end

def countField : FieldComment 1 :=
  { raw := some "A".toList, comment := "A is x. Defaults to \x601\x60.".toList, target := 0 }

def unreadableField : FieldComment 1 :=
  { raw := some "p.B".toList, comment := "B is y. Defaults to \x60(\x60.".toList, target := 0 }

def retypedField : FieldComment 1 :=
  { raw := some "A".toList, comment := "A is z. Schema type is \x60int\x60.".toList, target := 0 }

def unreadableDefault : CommentError :=
  { problem := .defaultUnreadable "(".toList "B".toList "Invalid literal '('".toList
    field := "B".toList
    text := some "(".toList }

/-- Three fields on one definition, the second of which fails. -/
def sharedFields : List (FieldComment 1) := [countField, unreadableField, retypedField]

def sharedBatch : Batch 1 :=
  { definitions := #v[{}], report := ⟨[(some "Z".toList, "late".toList)]⟩ }

theorem run_eq_sequence_sharedFields :
    (run (.standard {} false) sharedBatch sharedFields).2 = none ∧
      (run (.standard {} false) sharedBatch sharedFields).1.results =
        [(some "A".toList, {}), (some "A".toList, { noDerive := true })] ∧
      (run (.standard {} false) sharedBatch sharedFields).1.report.entries =
        [(some "Z".toList, "late".toList), (some "B".toList, unreadableDefault.message)] ∧
      (run (.standard {} true) sharedBatch sharedFields).2 = some (.comment unreadableDefault) ∧
      (run (.standard {} true) sharedBatch sharedFields).1.results = [(some "A".toList, {})] ∧
      (run (.standard {} true) sharedBatch sharedFields).1.report = sharedBatch.report := by
  have goesOn : (run (.standard {} false) sharedBatch sharedFields).2 = none := by
    decide +kernel
  obtain ⟨-, results, entries, -⟩ :=
    ((run_eq_sequence (.standard {} false) sharedBatch sharedFields).1 rfl).2 goesOn
  have succeed : ∀ answer ∈ (Interpreter.annotateFields (.standard {} true)
      sharedBatch.definitions [countField]).2, answer.succeeds := by decide +kernel
  have failed : (Interpreter.annotateField (.standard {} true) (Interpreter.annotateFields
      (.standard {} true) sharedBatch.definitions [countField]).1 unreadableField).2 =
        .error (.comment unreadableDefault) := by decide +kernel
  obtain ⟨ended, -, first, report⟩ := (run_eq_sequence (.standard {} true) sharedBatch
    sharedFields).2 rfl [countField] unreadableField [retypedField] unreadableDefault rfl
      succeed failed
  refine ⟨goesOn, results.trans ?_, entries.trans ?_, ended, first.trans ?_, report⟩
  · decide +kernel
  · decide +kernel
  · decide +kernel

end Batch

end CommentSchema
