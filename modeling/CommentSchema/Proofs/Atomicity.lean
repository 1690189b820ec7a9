import CommentSchema.Interpreter

/-! A run changes the caller's definition as a whole or not at all.  Everything before the end
of a run leaves that definition alone, taking over the copy cannot fail, and nothing that can
fail comes after it. -/

namespace CommentSchema

namespace Work

/-- Whether it succeeds or fails, the work leaves the caller's definition as it was. -/
def KeepsCaller (work : Work α) : Prop := ∀ desk, (work desk).1.caller = desk.caller

theorem keepsCaller_aside (run : Run α) : (aside run).KeepsCaller := fun _ => rfl

theorem keepsCaller_pure (value : α) : (pure value : Work α).KeepsCaller := fun _ => rfl

theorem keepsCaller_copyCaller : copyCaller.KeepsCaller := fun _ => rfl

theorem keepsCaller_edit (change : Definition → Definition) : (edit change).KeepsCaller :=
  fun _ => rfl

theorem keepsCaller_handOut (change : Definition → Run (Definition × α)) :
    (handOut change).KeepsCaller := by
  intro desk
  unfold handOut
  split <;> rfl

theorem KeepsCaller.bind {first : Work α} {next : α → Work β} (firstKeeps : first.KeepsCaller)
    (nextKeeps : ∀ value, (next value).KeepsCaller) : (first >>= next).KeepsCaller := by
  intro desk
  have kept := firstKeeps desk
  change (Work.bind first next desk).1.caller = desk.caller
  unfold Work.bind
  split
  · next between value calls result =>
      rw [result] at kept
      exact (nextKeeps value between).trans kept
  · next between error calls result =>
      rw [result] at kept
      exact kept

theorem commit_eq (desk : Desk) : commit desk = (⟨desk.work, desk.work⟩, .lift (.ok ())) := by
  simp only [commit, Definition.adopt_eq]

end Work

namespace Interpreter

open Work

theorem keepsCaller_prepare (interpreter : Interpreter) (raw : Option Text) (comment : Text) :
    (interpreter.prepare raw comment).KeepsCaller := by
  unfold prepare
  refine (keepsCaller_aside _).bind fun (context, name) => ?_
  refine (keepsCaller_aside _).bind fun _ => ?_
  refine keepsCaller_copyCaller.bind fun _ => ?_
  refine (keepsCaller_handOut _).bind fun block => ?_
  refine (keepsCaller_aside _).bind fun (afterDefault, value?) => ?_
  refine (keepsCaller_edit _).bind fun _ => ?_
  refine (keepsCaller_aside _).bind fun (afterType, shape) => ?_
  refine (keepsCaller_edit _).bind fun _ => ?_
  refine (keepsCaller_edit _).bind fun _ => ?_
  refine (keepsCaller_aside _).bind fun _ => ?_
  refine (keepsCaller_edit _).bind fun _ => ?_
  refine (keepsCaller_aside _).bind fun html => ?_
  refine (keepsCaller_edit _).bind fun _ => ?_
  exact keepsCaller_pure _

/-- The end of a run cannot fail: the outcome is settled before the copy is taken over. -/
theorem perform_of_prepare_ok {interpreter : Interpreter} {raw : Option Text} {comment : Text}
    {desk prepared : Desk} {info : Meta} {calls : List Call}
    (finished : interpreter.prepare raw comment desk = (prepared, ⟨.ok info, calls⟩)) :
    interpreter.perform raw comment desk =
      (⟨prepared.work, prepared.work⟩, ⟨.ok info, calls⟩) := by
  have committed : (commit >>= fun _ => (pure info : Work Meta)) prepared =
      (⟨prepared.work, prepared.work⟩, ⟨.ok info, []⟩) := bind_ok (commit_eq prepared) _
  rw [perform, bind_ok finished, committed, List.append_nil]

theorem perform_of_prepare_error {interpreter : Interpreter} {raw : Option Text}
    {comment : Text} {desk prepared : Desk} {error : Error} {calls : List Call}
    (failed : interpreter.prepare raw comment desk = (prepared, ⟨.error error, calls⟩)) :
    interpreter.perform raw comment desk = (prepared, ⟨.error error, calls⟩) :=
  bind_error failed _

theorem annotate_of_error {interpreter : Interpreter} {raw : Option Text} {comment : Text}
    {definition : Definition} {error : Error}
    (failed : (interpreter.annotate raw comment definition).2 = .error error) :
    (interpreter.annotate raw comment definition).1 = definition := by
  have kept := keepsCaller_prepare interpreter raw comment ⟨definition, {}⟩
  rcases prepared : interpreter.prepare raw comment ⟨definition, {}⟩ with ⟨desk, outcome, calls⟩
  rw [prepared] at kept
  cases outcome with
  | ok info => simp [annotate, perform_of_prepare_ok prepared] at failed
  | error fault => simpa only [annotate, perform_of_prepare_error prepared] using kept

/-- A failed run leaves the caller's definition as it was; after any other run each of its
fields is the one of the finished copy.  The outcome is that of the preparation, so taking
over the copy never stops on the way. -/
theorem annotate_all_or_nothing (interpreter : Interpreter) (raw : Option Text)
    (comment : Text) (definition : Definition) :
    let (prepared, run) := interpreter.prepare raw comment ⟨definition, {}⟩
    let (after, outcome) := interpreter.annotate raw comment definition
    outcome = run.outcome ∧
      match outcome with
      | .ok _ => ∀ field, Definition.AgreeOn field after prepared.work
      | .error _ => after = definition := by
  have kept := keepsCaller_prepare interpreter raw comment ⟨definition, {}⟩
  cases result : interpreter.prepare raw comment ⟨definition, {}⟩ with
  | mk prepared run =>
      cases run with
      | mk outcome calls =>
          rw [result] at kept
          cases outcome with
          | ok info =>
              simp only [annotate, perform_of_prepare_ok result]
              exact ⟨trivial, fun field => .refl field prepared.work⟩
          | error error =>
              simp only [annotate, perform_of_prepare_error result]
              exact ⟨trivial, kept⟩

end Interpreter

end CommentSchema
