import CommentSchema.Proofs.EnumBlock
import Mathlib.Control.Monad.Basic

/-! Strict mode only filters.  It checks how a comment begins before anything is read and how
the description ends after everything is read, and between the two checks it reads what is read
without it. -/

namespace CommentSchema

/-- About a comment that is not written as strict mode demands. -/
def Error.Malformed (error : Error) : Prop :=
  ∃ fault, error = .comment fault ∧ fault.problem.category = .malformed

namespace Comment

theorem blockSentence_eq (comment : Text) :
    blockSentence comment = [] ∨ ∃ values, (∀ value ∈ values, '\n' ∉ value) ∧
      blockSentence comment = EnumBlock.sentenceOf values := by
  unfold blockSentence block? foundBlock?
  cases found : EnumBlock.find comment with
  | error fault => exact .inl rfl
  | ok found? =>
      cases found? with
      | none => exact .inl rfl
      | some pair =>
          obtain ⟨block, values⟩ := pair
          have splices := EnumBlock.splices_of_find found
          have whole := found.symm.trans (EnumBlock.find_of_splices splices)
          simp only [Except.ok.injEq, Option.some.injEq, Prod.mk.injEq, and_true] at whole
          exact .inr ⟨values, EnumBlock.line_of_splices splices, congrArg EnumBlock.sentence whole⟩

theorem getLast?_sentenceOf (values : List Text) :
    (EnumBlock.sentenceOf values).getLast? = some '.' := by
  unfold EnumBlock.sentenceOf
  exact List.getLast?_concat

theorem getLast?_blockSentence (comment : Text) :
    ∀ c ∈ (blockSentence comment).getLast?, c = '.' := by
  intro c last
  rcases blockSentence_eq comment with none | ⟨values, -, same⟩
  · rw [none] at last
    cases last
  · rw [same, getLast?_sentenceOf] at last
    exact (Option.some.inj last).symm

theorem getLast?_joinNonempty (text sentence : Text) :
    (joinNonempty [' '] [text, sentence]).getLast? = sentence.getLast?.or text.getLast? := by
  cases text with
  | nil => cases sentence <;> simp [joinNonempty]
  | cons c rest =>
      cases sentence with
      | nil => simp [joinNonempty]
      | cons d others =>
          have whole : joinNonempty [' '] [c :: rest, d :: others] =
              (c :: rest ++ [' ']) ++ (d :: others) := rfl
          rw [whole, List.getLast?_append]
          simp [List.getLast?_cons]

end Comment

namespace Interpreter

section

variable [Dialect] {builder : Builder} {name comment description : Text}

theorem checkLead_ok_iff :
    ((standard builder true).checkLead name comment).outcome = .ok () ↔
      name = [] ∨ name ++ [' '] <+: comment := by
  unfold checkLead
  cases name with
  | nil => simp [standard]
  | cons c rest =>
      cases found : ((c :: rest) ++ [' ']).isPrefixOf comment with
      | true => simpa [standard, found] using List.isPrefixOf_iff_prefix.mp found
      | false =>
          have absent : ¬ (c :: rest) ++ [' '] <+: comment := by
            rw [← List.isPrefixOf_iff_prefix, found]
            simp
          simpa [standard, found, Run.fail] using absent

theorem malformed_of_checkLead {error : Error}
    (failed : ((standard builder true).checkLead name comment).outcome = .error error) :
    error.Malformed := by
  unfold checkLead at failed
  split at failed
  · cases failed
    exact ⟨_, rfl, rfl⟩
  · cases failed

theorem checkDescription_ok_iff :
    ((standard builder true).checkDescription name description).outcome = .ok () ↔
      name = [] ∨ description.getLast? = some '.' := by
  unfold checkDescription
  cases name with
  | nil => simp [standard]
  | cons c rest =>
      cases description with
      | nil => simp [standard, Run.fail]
      | cons d others =>
          by_cases ends : (d :: others).getLast? = some '.'
          · simp [standard, ends]
          · simp [standard, ends, Run.fail]

theorem malformed_of_checkDescription {error : Error}
    (failed : ((standard builder true).checkDescription name description).outcome =
      .error error) : error.Malformed := by
  unfold checkDescription at failed
  split at failed
  · split at failed
    · cases failed
      exact ⟨_, rfl, rfl⟩
    · split at failed
      · cases failed
        exact ⟨_, rfl, rfl⟩
      · cases failed
  · cases failed

theorem buildTypes_strict (builder : Builder) (clause name context : Text) (texts : List Text) :
    (standard builder true).buildTypes clause name context texts =
      (standard builder false).buildTypes clause name context texts := by
  induction texts with
  | nil => rfl
  | cons text rest ih =>
      rw [buildTypes, buildTypes, ih]
      rfl

theorem readShape_strict (builder : Builder) (name context text : Text) :
    (standard builder true).readShape name context text =
      (standard builder false).readShape name context text := by
  unfold readShape
  simp only [buildTypes_strict]
  rfl

theorem readDefault_strict (builder : Builder) (name text : Text) :
    (standard builder true).readDefault name text =
      (standard builder false).readDefault name text := rfl

/-- A strict reading is the one without strictness between two checks. -/
theorem reading_strict (builder : Builder) {raw : Option Text} (comment : Text) {context : Text}
    (resolves : Reference.interpret raw = (context, name)) :
    (standard builder true).reading raw comment =
      ((standard builder true).checkLead name comment).outcome >>= fun _ =>
      (standard builder false).reading raw comment >>= fun reading =>
      ((standard builder true).checkDescription name
        (Comment.remainder name comment)).outcome >>= fun _ => .ok reading := by
  have resolved (strict : Bool) : (standard builder strict).resolveReference raw =
      .ok (context, name) := congrArg Except.ok resolves
  -- An error in between ends both readings alike, and is met before the second check.
  unfold Interpreter.reading
  simp only [resolved, readDefault_strict, readShape_strict, Error.ok_bind]
  cases Comment.EnumBlock.find comment with
  | error fault => rfl
  | ok found =>
      cases readDefault : ((standard builder false).readDefault name
          (Comment.stripTags (Comment.body comment))).outcome with
      | error fault => rfl
      | ok start =>
          cases readShape : ((standard builder false).readShape name context start.1).outcome with
          | error fault =>
              simp only [Except.mapError, Error.ok_bind, readShape]
              rfl
          | ok shaped =>
              obtain ⟨sameStart, -⟩ := readDefault_ok readDefault
              obtain ⟨sameShaped, -⟩ := readShape_ok readShape
              simp only [Except.mapError, Error.ok_bind, readShape, Comment.remainder,
                Comment.clauses, ← sameStart, ← sameShaped]
              rfl

section

variable {raw : Option Text} {context : Text} {reading : Reading} {error : Error}

theorem reading_strict_eq_ok (resolves : Reference.interpret raw = (context, name)) :
    (standard builder true).reading raw comment = .ok reading ↔
      (standard builder false).reading raw comment = .ok reading ∧
        (name = [] ∨ name ++ [' '] <+: comment) ∧
        (name = [] ∨ (Comment.remainder name comment).getLast? = some '.') := by
  rw [reading_strict builder comment resolves]
  simp only [Error.bind_eq_ok, Except.ok.injEq]
  constructor
  · intro read
    obtain ⟨_, lead, _, read, _, ends, rfl⟩ := read
    exact ⟨read, checkLead_ok_iff.mp lead, checkDescription_ok_iff.mp ends⟩
  · intro read
    obtain ⟨read, lead, ends⟩ := read
    exact ⟨(), checkLead_ok_iff.mpr lead, reading, read, (), checkDescription_ok_iff.mpr ends,
      rfl⟩

theorem reading_strict_of_error (resolves : Reference.interpret raw = (context, name))
    (lead : name = [] ∨ name ++ [' '] <+: comment)
    (failed : (standard builder false).reading raw comment = .error error) :
    (standard builder true).reading raw comment = .error error := by
  rw [reading_strict builder comment resolves, checkLead_ok_iff.mpr lead, failed]
  rfl

theorem reading_strict_of_unnamed (resolves : Reference.interpret raw = (context, name))
    (unnamed : name = []) :
    (standard builder true).reading raw comment = (standard builder false).reading raw comment := by
  cases read : (standard builder false).reading raw comment with
  | ok reading => exact (reading_strict_eq_ok resolves).mpr ⟨read, .inl unnamed, .inl unnamed⟩
  | error fault => exact reading_strict_of_error resolves (.inl unnamed) read

theorem malformed_of_other_lead (resolves : Reference.interpret raw = (context, name))
    (named : name ≠ []) (other : ¬ name ++ [' '] <+: comment) :
    ∃ error, (standard builder true).reading raw comment = .error error ∧ error.Malformed := by
  cases lead : ((standard builder true).checkLead name comment).outcome with
  | ok _ => exact absurd (checkLead_ok_iff.mp lead) (not_or.mpr ⟨named, other⟩)
  | error fault =>
      refine ⟨fault, ?_, malformed_of_checkLead lead⟩
      rw [reading_strict builder comment resolves, lead]
      rfl

theorem malformed_of_reading_ok (resolves : Reference.interpret raw = (context, name))
    (read : (standard builder false).reading raw comment = .ok reading)
    (failed : (standard builder true).reading raw comment = .error error) : error.Malformed := by
  rw [reading_strict builder comment resolves, read] at failed
  cases lead : ((standard builder true).checkLead name comment).outcome with
  | error fault =>
      rw [lead] at failed
      cases failed
      exact malformed_of_checkLead lead
  | ok _ =>
      rw [lead, Error.ok_bind, Error.ok_bind] at failed
      cases ends : ((standard builder true).checkDescription name
          (Comment.remainder name comment)).outcome with
      | error fault =>
          rw [ends] at failed
          cases failed
          exact malformed_of_checkDescription ends
      | ok _ =>
          rw [ends] at failed
          cases failed

theorem ends_of_reading_strict (resolves : Reference.interpret raw = (context, name))
    (named : name ≠ []) (read : (standard builder true).reading raw comment = .ok reading) :
    reading.description.getLast? = some '.' := by
  obtain ⟨-, -, ends⟩ := (reading_strict_eq_ok resolves).mp read
  have resolved : (standard builder true).resolveReference raw = .ok (context, name) :=
    congrArg Except.ok resolves
  rw [description_of_reading resolved read]
  rw [Comment.getLast?_joinNonempty, ends.resolve_left named]
  cases last : (Comment.blockSentence comment).getLast? with
  | none => rfl
  | some c => exact congrArg some (Comment.getLast?_blockSentence comment c last)

end

/-- Strict mode answers as the mode without it where a field has no name, and otherwise only
refuses.  What it accepts begins with the name, ends with a dot and is read alike; an error of
the other mode is its own unless the name is missing; and every error that only it has is about
how the comment is written. -/
theorem annotate_strict (builder : Builder) (raw : Option Text) (comment : Text)
    (definition : Definition) :
    let name := (Reference.interpret raw).2
    let strict := (standard builder true).annotate raw comment definition
    let lenient := (standard builder false).annotate raw comment definition
    (name = [] → strict = lenient) ∧
    (name ≠ [] →
      (∀ info, strict.2 = .ok info →
        name ++ [' '] <+: comment ∧ lenient = strict ∧
          strict.1.description.getLast? = some '.') ∧
      (∀ error, lenient.2 = .error error →
        (name ++ [' '] <+: comment → strict.2 = .error error) ∧
        (¬ name ++ [' '] <+: comment → ∃ fault, strict.2 = .error fault ∧ fault.Malformed)) ∧
      ∀ info error, lenient.2 = .ok info → strict.2 = .error error → error.Malformed) := by
  intro name strict lenient
  have resolves : Reference.interpret raw = ((Reference.interpret raw).1, name) := rfl
  have strictly := annotate_eq (standard builder true) raw comment rfl definition
  have leniently := annotate_eq (standard builder false) raw comment rfl definition
  simp only [strict, lenient, strictly, leniently]
  refine ⟨fun unnamed => ?_, fun named => ⟨fun info answered => ?_, fun error failed => ?_,
    fun info error answered failed => ?_⟩⟩
  · rw [reading_strict_of_unnamed resolves unnamed]
  · cases read : (standard builder true).reading raw comment with
    | error fault =>
        rw [read] at answered
        cases answered
    | ok reading =>
        obtain ⟨same, lead, -⟩ := (reading_strict_eq_ok resolves).mp read
        rw [same]
        exact ⟨lead.resolve_left named, rfl, ends_of_reading_strict resolves named read⟩
  · refine ⟨fun lead => ?_, fun other => ?_⟩
    · cases read : (standard builder false).reading raw comment with
      | ok reading =>
          rw [read] at failed
          cases failed
      | error fault =>
          rw [read] at failed
          cases failed
          rw [reading_strict_of_error resolves (.inr lead) read]
    · obtain ⟨fault, read, malformed⟩ :=
        malformed_of_other_lead resolves named other
      rw [read]
      exact ⟨fault, rfl, malformed⟩
  · cases read : (standard builder false).reading raw comment with
    | error fault =>
        rw [read] at answered
        cases answered
    | ok reading =>
        cases strictRead : (standard builder true).reading raw comment with
        | ok reading =>
            rw [strictRead] at failed
            cases failed
        | error fault =>
            rw [strictRead] at failed
            cases failed
            exact malformed_of_reading_ok resolves read strictRead

end

def listedComment : Text := "A is x.\nPossible values:\n- \x60a\x60".toList

def unreadableComment : Text := "A is x. Defaults to \x60(\x60.".toList

def unreadableError (name : Text) : Error :=
  .comment { problem := .defaultUnreadable "(".toList name "Invalid literal '('".toList
             field := name
             text := some "(".toList }

theorem annotate_strict_listedComment :
    (standard {} true).annotate none "any words".toList {} =
        (standard {} false).annotate none "any words".toList {} ∧
      ((standard {} true).annotate (some "A".toList) listedComment {}).1.description.getLast? =
        some '.' ∧
      ((standard {} true).annotate (some "A".toList) unreadableComment {}).2 =
        .error (unreadableError "A".toList) ∧
      (∃ fault, ((standard {} true).annotate (some "B".toList) unreadableComment {}).2 =
        .error fault ∧ fault.Malformed) ∧
      (malformed (.descriptionUnended "A".toList) "A".toList (some "x".toList)).Malformed := by
  have unnamed := (annotate_strict {} none "any words".toList {}).1 rfl
  obtain ⟨accepted, -, -⟩ := (annotate_strict {} (some "A".toList) listedComment {}).2 (by decide)
  obtain ⟨-, -, ends⟩ := accepted {} (by decide +kernel)
  obtain ⟨-, same, -⟩ := (annotate_strict {} (some "A".toList) unreadableComment {}).2 (by decide)
  obtain ⟨-, other, -⟩ := (annotate_strict {} (some "B".toList) unreadableComment {}).2 (by decide)
  obtain ⟨-, -, refused⟩ := (annotate_strict {} (some "A".toList) "A is x".toList {}).2 (by decide)
  have lead : (Reference.interpret (some "A".toList)).2 ++ [' '] <+: unreadableComment := by
    rw [← List.isPrefixOf_iff_prefix]
    decide
  have noLead : ¬ (Reference.interpret (some "B".toList)).2 ++ [' '] <+: unreadableComment := by
    rw [← List.isPrefixOf_iff_prefix]
    decide
  refine ⟨unnamed, ends, (same (unreadableError "A".toList) ?_).1 lead,
    (other (unreadableError "B".toList) ?_).2 noLead, ?_⟩
  · decide +kernel
  · decide +kernel
  · exact refused {} _ (by decide +kernel) (by decide +kernel)

end Interpreter

end CommentSchema
