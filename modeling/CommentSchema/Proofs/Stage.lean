import CommentSchema.Interpreter

/-! A run as stages it comes to one after the other: the calls to its collaborators and the
checks of its own.  It ends at the first that does not pass. -/

namespace CommentSchema

/-- A stage of a run, which passes or ends it with an error: a call to a collaborator, or a
check of its own. -/
structure Stage where
  call? : Option Call
  error? : Option Error

namespace Stage

def errorOf : Except Error α → Option Error
  | .ok _ => none
  | .error error => some error

def asks (call : Call) (outcome : Except Error α) : Stage := ⟨some call, errorOf outcome⟩

def checks (outcome : Except Error α) : Stage := ⟨none, errorOf outcome⟩

/-- The stages that a run comes to: all of them up to the first that does not pass. -/
def reached : List Stage → List Stage
  | [] => []
  | stage :: rest =>
      match stage.error? with
      | none => stage :: reached rest
      | some _ => [stage]

def calls (stages : List Stage) : List Call := (reached stages).filterMap (·.call?)

/-- The error of the first stage that does not pass. -/
def failure? (stages : List Stage) : Option Error := stages.findSome? (·.error?)

theorem errorOf_eq_none {outcome : Except Error α} :
    errorOf outcome = none ↔ ∃ value, outcome = .ok value := by
  cases outcome with
  | ok value => simp [errorOf]
  | error error => simp [errorOf]

theorem errorOf_eq_some {outcome : Except Error α} {error : Error} :
    errorOf outcome = some error ↔ outcome = .error error := by
  cases outcome with
  | ok value => simp [errorOf]
  | error fault => simp [errorOf]

theorem reached_append_of_passing {stages : List Stage} (rest : List Stage)
    (passing : failure? stages = none) : reached (stages ++ rest) = stages ++ reached rest := by
  induction stages with
  | nil => rfl
  | cons stage others ih =>
      rw [failure?, List.findSome?_cons] at passing
      cases passed : stage.error? with
      | none =>
          rw [passed] at passing
          simp only [List.cons_append, reached, passed, ih passing]
      | some error =>
          rw [passed] at passing
          cases passing

theorem reached_append_of_failing {stages : List Stage} (rest : List Stage)
    (failing : failure? stages ≠ none) : reached (stages ++ rest) = reached stages := by
  induction stages with
  | nil => exact absurd rfl failing
  | cons stage others ih =>
      rw [failure?, List.findSome?_cons] at failing
      cases passed : stage.error? with
      | none =>
          rw [passed] at failing
          simp only [List.cons_append, reached, passed, ih failing]
      | some error => simp only [List.cons_append, reached, passed]

theorem reached_of_passing {stages : List Stage} (passing : failure? stages = none) :
    reached stages = stages := by
  simpa [reached] using reached_append_of_passing [] passing

theorem reached_prefix (stages : List Stage) : reached stages <+: stages := by
  induction stages with
  | nil => exact List.prefix_refl []
  | cons stage others ih =>
      unfold reached
      split
      · exact (List.prefix_cons_inj stage).mpr ih
      · exact (List.prefix_cons_inj stage).mpr (List.nil_prefix)

theorem failure?_append (stages rest : List Stage) :
    failure? (stages ++ rest) = (failure? stages).or (failure? rest) := List.findSome?_append

/-- A run through the stages ends with the error, though all the calls it makes are answered. -/
def Declines (stages : List Stage) (error : Error) : Prop :=
  failure? stages = some error ∧
    ∀ stage ∈ reached stages, stage.call?.isSome → stage.error? = none

variable {rest : List Stage} {error : Error}

theorem not_declines_nil : ¬ Declines [] error := fun declines => nomatch declines.1

theorem declines_asks {call : Call} {outcome : Except Error α} :
    Declines (asks call outcome :: rest) error ↔
      (∃ value, outcome = .ok value) ∧ Declines rest error := by
  cases outcome with
  | ok value => simp [Declines, failure?, reached, asks, errorOf]
  | error fault => simp [Declines, failure?, reached, asks, errorOf]

theorem declines_checks {outcome : Except Error α} :
    Declines (checks outcome :: rest) error ↔
      outcome = .error error ∨ (∃ value, outcome = .ok value) ∧ Declines rest error := by
  cases outcome with
  | ok value => simp [Declines, failure?, reached, checks, errorOf]
  | error fault => simp [Declines, failure?, reached, checks, errorOf]

/-- Where all stages are calls, they are answered. -/
theorem declines_append {stages : List Stage} (called : ∀ stage ∈ stages, stage.call?.isSome) :
    Declines (stages ++ rest) error ↔ failure? stages = none ∧ Declines rest error := by
  induction stages with
  | nil => simp [failure?]
  | cons stage others ih =>
      rw [List.forall_mem_cons] at called
      have step := ih called.2
      unfold Declines failure? at step ⊢
      cases passed : stage.error? with
      | none => simpa [reached, passed] using step
      | some fault => simp [reached, passed, called.1]

end Stage

namespace Run

open Stage (errorOf asks checks)

/-- The run comes to the stages: it makes their calls up to the first stage that does not pass,
and ends with the error of that stage. -/
def Follows (run : Run α) (stages : List Stage) : Prop :=
  run.calls = Stage.calls stages ∧ errorOf run.outcome = Stage.failure? stages

theorem follows_pure (value : α) : (pure value : Run α).Follows [] := ⟨rfl, rfl⟩

theorem Follows.bind {run : Run α} {next : α → Run β} {stages rest : List Stage}
    (first : run.Follows stages)
    (others : ∀ value, run.outcome = .ok value → (next value).Follows rest) :
    (run >>= next).Follows (stages ++ rest) := by
  obtain ⟨calls, failure⟩ := first
  cases outcome : run.outcome with
  | ok value =>
      rw [outcome] at failure
      obtain ⟨nextCalls, nextFailure⟩ := others value outcome
      rw [bind_ok outcome]
      refine ⟨?_, ?_⟩
      · rw [Stage.calls, Stage.reached_append_of_passing rest failure.symm, List.filterMap_append,
          calls, Stage.calls, Stage.reached_of_passing failure.symm, nextCalls, Stage.calls]
      · rw [Stage.failure?_append, ← failure, nextFailure]
        rfl
  | error error =>
      rw [outcome] at failure
      have failing : Stage.failure? stages ≠ none := by simp [← failure, errorOf]
      rw [bind_error outcome]
      refine ⟨?_, ?_⟩
      · rw [Stage.calls, Stage.reached_append_of_failing rest failing, calls, Stage.calls]
      · rw [Stage.failure?_append, ← failure]
        rfl

theorem follows_call (call : Call) (outcome : Except Error α) :
    (Run.call call outcome).Follows [asks call outcome] := by
  cases outcome with
  | ok value => exact ⟨rfl, rfl⟩
  | error error => exact ⟨rfl, rfl⟩

theorem follows_of_silent {run : Run α} (silent : run.calls = []) :
    run.Follows [checks run.outcome] := by
  refine ⟨?_, ?_⟩
  · cases outcome : run.outcome with
    | ok value => exact silent
    | error error => exact silent
  · cases outcome : run.outcome with
    | ok value => rfl
    | error error => rfl

theorem Follows.returns {run : Run α} {stages : List Stage} (follows : run.Follows stages)
    (value : α → β) : (run >>= fun found => pure (value found)).Follows stages := by
  rw [← List.append_nil stages]
  exact follows.bind fun found _ => follows_pure (value found)

theorem Follows.ask {call : Call} {outcome : Except Error α} {next : α → Run β}
    {rest : List Stage} (others : ∀ value, outcome = .ok value → (next value).Follows rest) :
    (Run.call call outcome >>= next).Follows (asks call outcome :: rest) :=
  (follows_call call outcome).bind others

theorem Follows.check {run : Run α} {next : α → Run β} {rest : List Stage}
    (silent : run.calls = [])
    (others : ∀ value, run.outcome = .ok value → (next value).Follows rest) :
    (run >>= next).Follows (checks run.outcome :: rest) :=
  (follows_of_silent silent).bind others

theorem mapError_call (call : Call) (outcome : Except Error α) (change : Error → Error) :
    (Run.call call outcome).mapError change = Run.call call (outcome.mapError change) := rfl

end Run

namespace Work

theorem snd_aside_bind (run : Run α) (next : α → Work β) (desk : Desk) :
    ((aside run >>= next) desk).2 = run >>= fun value => (next value desk).2 := by
  cases run with
  | mk outcome calls =>
      cases outcome with
      | ok value => rfl
      | error error => rfl

theorem snd_copyCaller_bind (next : Unit → Work β) (desk : Desk) :
    ((copyCaller >>= next) desk).2 = (next () ⟨desk.caller, desk.caller⟩).2 := rfl

theorem snd_edit_bind (change : Definition → Definition) (next : Unit → Work β) (desk : Desk) :
    ((edit change >>= next) desk).2 = (next () ⟨desk.caller, change desk.work⟩).2 := rfl

theorem snd_handOut_bind (change : Definition → Run (Definition × α)) (next : α → Work β)
    (desk : Desk) :
    ((handOut change >>= next) desk).2 =
      change desk.work >>= fun answer => (next answer.2 ⟨desk.caller, answer.1⟩).2 := by
  change (Work.bind (handOut change) next desk).2 = _
  simp only [Work.bind, handOut]
  cases change desk.work with
  | mk outcome calls =>
      cases outcome with
      | ok answer => rfl
      | error error => rfl

end Work

end CommentSchema
