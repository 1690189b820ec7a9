import CommentSchema.Proofs.Arrangement
import CommentSchema.Proofs.Reading
import Mathlib.Control.Monad.Basic

/-! The order of the sentences of a comment.  What a run makes of a comment that is written from
its parts is what it makes of the parts that are found in that order. -/

namespace CommentSchema

namespace Comment

/-- The shape that the part about the type comes to.  A list is found in some text, and without
entries it is a problem of that text. -/
def TypePart.shape [Dialect] (builder : Builder) (context name seen : Text) :
    TypePart → Except Error Shape
  | unstated => .ok .declared
  | override type =>
      ((Interpreter.standard builder false).buildType Interpreter.overrideClause name context
        type).outcome.map .replaced
  | oneOf [] => .error (.oneOfWithoutEntries seen)
  | oneOf types =>
      ((Interpreter.standard builder false).buildTypes Interpreter.oneOfClause name context
        types).outcome.map .alternatives

namespace Parts

/-- The value of the default, if there is one. -/
def value [Dialect] (name : Text) (parts : Parts) : Except Error (Option Value) :=
  match parts.default? with
  | none => .ok none
  | some literal =>
      ((Literal.read literal).mapError (Interpreter.defaultError literal name)).map some

/-- What a run makes of the parts that it has found, `seen` being the comment without the default
and what stands behind it. -/
def conclude [Dialect] (builder : Builder) (context name seen : Text) (parts : Parts) :
    Except Error Reading := do
  let default? ← parts.value name
  let shape ← parts.type.shape builder context name seen
  let description := removeName name parts.withProse
  .ok {
    values? := none
    default?, shape, description
    example? := parts.example?
    htmlDescription := Markdown.stripParagraphTags (Markdown.render description)
    required := false }

end Parts

theorem joinNonempty_nil (separator text : Text) : joinNonempty separator [text, []] = text := by
  cases text with
  | nil => rfl
  | cons c rest => rfl

end Comment

namespace Interpreter

open Comment (Parts)

section

variable [Dialect] {builder : Builder} {parts : Parts} {order : List Parts.Slot}
  {context name : Text}

/-- The reading of a comment without an enum block, step by step. -/
theorem reading_of_blockless {text : Text} (blockless : Comment.EnumBlock.find text = .ok none)
    {raw : Option Text} (resolves : Reference.interpret raw = (context, name)) :
    (standard builder false).reading raw text = (do
      let (rest, default?) ←
        ((standard builder false).readDefault name (Comment.stripTags text)).outcome
      let (rest, shape) ← ((standard builder false).readShape name context rest).outcome
      let found := Comment.extractExample rest
      let description := Comment.removeName name found.1
      .ok {
        values? := none
        default?, shape, description
        example? := found.2
        htmlDescription := Markdown.stripParagraphTags (Markdown.render description)
        required := Comment.isRequired text }) := by
  have block? : Comment.foundBlock? text = none := by rw [Comment.foundBlock?, blockless]
  have body : Comment.body text = text := by
    rw [Comment.body, Comment.block?, block?]
    rfl
  have sentence : Comment.blockSentence text = [] := by
    rw [Comment.blockSentence, Comment.block?, block?]
    rfl
  have resolved : (standard builder false).resolveReference raw = .ok (context, name) :=
    congrArg Except.ok resolves
  unfold reading
  simp only [resolved, blockless, body, sentence, Comment.joinNonempty_nil,
    Comment.blockValues?, block?, Error.ok_bind]
  rfl

theorem readDefault_of_found (parts : Parts) {text rest : Text}
    (found : Comment.extractDefault text = (rest, parts.default?)) :
    ((standard builder false).readDefault name text).outcome = (do
      let value? ← parts.value name
      .ok (rest, value?)) := by
  unfold readDefault Parts.value
  rw [found]
  cases parts.default? with
  | none => rfl
  | some literal =>
      simp only [Run.outcome_bind, Run.outcome_mapError, Run.outcome_call]
      change ((Literal.read literal).mapError _ >>= _) = _
      cases Literal.read literal with
      | ok value => rfl
      | error error => rfl

theorem readDefault_arrange (writable : parts.Writable) (arranged : parts.Arranged order) :
    ((standard builder false).readDefault name (parts.arrange order)).outcome = (do
      let value? ← (parts.found order).value name
      .ok (parts.arrange (Parts.upTo .default order), value?)) :=
  readDefault_of_found (parts.found order) (Parts.extractDefault_arrange writable arranged)

theorem readDefault_of_absent {text : Text}
    (unstated : Comment.extractDefault text = (text, none)) :
    ((standard builder false).readDefault name text).outcome = .ok (text, none) := by
  rw [readDefault, unstated]
  rfl

theorem readShape_of_absent {text : Text} (unstated : Comment.extractType text = (text, none))
    (unlisted : Comment.extractOneOf text = .ok (text, none)) :
    ((standard builder false).readShape name context text).outcome = .ok (text, .declared) := by
  unfold readShape
  simp only [unstated, unlisted, Run.outcome_bind, Run.outcome_lift, Error.ok_bind,
    Run.outcome_pure]

theorem readShape_of_error {text : Text} {error : Error}
    (unstated : Comment.extractType text = (text, none))
    (failed : Comment.extractOneOf text = .error error) :
    ((standard builder false).readShape name context text).outcome = .error error := by
  unfold readShape
  simp only [unstated, failed, Run.outcome_bind, Run.outcome_lift]
  rfl

theorem readShape_of_not_mem (writable : parts.Writable) (arranged : parts.Arranged order)
    (absent : .type ∉ order) :
    ((standard builder false).readShape name context (parts.arrange order)).outcome =
      .ok (parts.arrange order, .declared) := by
  have unlisted := Parts.extractOneOf_of_not_mem writable absent
  have unstated : Comment.extractType (parts.arrange order) = (parts.arrange order, none) := by
    cases stated : parts.type with
    | override type =>
        have extracted := Parts.extractType_of_override writable arranged stated
        rwa [if_neg absent, Parts.upTo_of_not_mem absent] at extracted
    | unstated | oneOf => exact Parts.extractType_of_no_override writable (by simp [stated]) order
  exact readShape_of_absent unstated unlisted

theorem readShape_of_mem (writable : parts.Writable) (arranged : parts.Arranged order)
    (member : .type ∈ order) :
    ((standard builder false).readShape name context (parts.arrange order)).outcome = (do
      let shape ← (parts.type.read (parts.behind .type order)).shape builder context name
        (parts.arrange order)
      .ok (parts.arrange (Parts.upTo .type order), shape)) := by
  unfold readShape
  cases stated : parts.type with
  | unstated =>
      have chosen := arranged.chosen .type member
      exact absurd (by rw [Parts.sentenceAt, stated]; rfl) chosen
  | override type =>
      rw [Parts.extractType_of_override writable arranged stated, if_pos member]
      simp only [Run.outcome_bind, Run.outcome_pure, Comment.TypePart.read,
        Comment.TypePart.shape]
      cases ((standard builder false).buildType overrideClause name context
        (Comment.runOn type (parts.behind .type order))).outcome with
      | ok node => rfl
      | error error => rfl
  | oneOf types =>
      rw [Parts.extractType_of_no_override writable (by simp [stated]) order]
      simp only [Run.outcome_bind, Run.outcome_lift, Comment.TypePart.read,
        Parts.extractOneOf_of_mem writable arranged stated member]
      cases Comment.readable types with
      | nil => rfl
      | cons first others =>
          simp only [List.cons_ne_nil, if_false, Error.ok_bind, Run.outcome_bind,
            Run.outcome_pure, Comment.TypePart.shape]
          cases ((standard builder false).buildTypes oneOfClause name context
            (first :: others)).outcome with
          | ok nodes => rfl
          | error error => rfl

theorem reading_arrange (writable : parts.Writable) (arranged : parts.Arranged order)
    {raw : Option Text} (resolves : Reference.interpret raw = (context, name)) :
    (standard builder false).reading raw (parts.arrange order) =
      (parts.found order).conclude builder context name
        (parts.arrange (Parts.upTo .default order)) := by
  have early := arranged.upTo .default
  have start := early.upTo .type
  have only : ∀ slot ∈ Parts.upTo .type (Parts.upTo .default order), slot = .sample := by
    intro slot member
    have noType := Parts.ne_of_mem_upTo member
    have noDefault := Parts.ne_of_mem_upTo (Parts.mem_of_mem_upTo member)
    cases slot with
    | sample => rfl
    | type => exact absurd rfl noType
    | default => exact absurd rfl noDefault
  have example? := Parts.extractExample_arrange writable start only
  have opens := Parts.opens_arrange writable order
  rw [reading_of_blockless (opens.toBegins.find_eq writable.name) resolves,
    opens.toBegins.isRequired_eq, opens.stripTags_eq,
    readDefault_arrange writable arranged, Parts.conclude, bind_assoc]
  refine bind_congr fun value? => ?_
  simp only [Error.ok_bind]
  by_cases member : .type ∈ Parts.upTo .default order
  · rw [readShape_of_mem writable early member, bind_assoc]
    simp only [Error.ok_bind, example?, Parts.found, if_pos member]
    rfl
  · rw [readShape_of_not_mem writable early member]
    rw [Parts.upTo_of_not_mem member] at example?
    simp only [Error.ok_bind, example?, Parts.found, if_neg member,
      Parts.upTo_of_not_mem member, Comment.TypePart.shape]
    rfl

/-- What a run answers by what was read, and what becomes of the caller's definition. -/
def entered (definition : Definition) : Except Error Reading → Definition × Except Error Meta
  | .ok reading => (reading.enter definition, .ok reading.info)
  | .error error => (definition, .error error)

/-- Whatever the order of the sentences, a run makes of the comment what it makes of the parts
found in that order, and only in the order in which they are written are they found as there. -/
theorem annotate_arrange (writable : parts.Writable) (permuted : order.Perm parts.selected)
    {raw : Option Text} (resolves : Reference.interpret raw = (context, name))
    (definition : Definition) :
    (standard builder false).annotate raw (parts.arrange order) definition =
        entered definition ((parts.found order).conclude builder context name
          (parts.arrange (Parts.upTo .default order))) ∧
      parts.found parts.selected = { parts with type := parts.type.read [] } ∧
      (parts.found order = parts.found parts.selected ↔ order = parts.selected) := by
  refine ⟨?_, Parts.found_selected parts, Parts.found_eq_iff permuted⟩
  rw [annotate_eq _ raw _ rfl, reading_arrange writable (.of_perm permuted) resolves]
  rfl

end

def twoClauses : Parts :=
  { name := "N".toList
    prose := "size.".toList
    example? := some "2".toList
    default? := some "1".toList }

theorem twoClauses_writable : twoClauses.Writable where
  name := by
    have visible : twoClauses.name.any Text.isBlank = false := by decide
    exact ⟨by decide, by simpa using visible, by decide, by decide⟩
  prose := ⟨by decide, by decide, by decide⟩
  proseNonempty := by decide
  proseTrimmed := by decide
  example? := by
    intro text written
    have same : "2".toList = text := Option.some.inj written
    rw [← same]
    exact ⟨by decide, by decide, by decide⟩
  types := fun text written => nomatch written
  listed := fun same => nomatch same
  default? := by
    intro text written
    have same : "1".toList = text := Option.some.inj written
    rw [← same]
    exact ⟨by decide, by decide, by decide⟩

/-- With the default in front of it, the example becomes a piece of the literal. -/
theorem annotate_arrange_twoClauses :
    List.Perm [Parts.Slot.default, .sample] twoClauses.selected ∧
      Reference.interpret (some "N".toList) = ([], "N".toList) ∧
      twoClauses.found [.default, .sample] =
        { twoClauses with
          default? := some "1\x60. For example: \x602".toList
          example? := none } ∧
      (standard {} false).annotate (some "N".toList) (twoClauses.arrange [.default, .sample]) {} =
        entered {} ((twoClauses.found [.default, .sample]).conclude {} [] "N".toList
          (twoClauses.arrange (Parts.upTo .default [.default, .sample]))) := by
  have permuted : List.Perm [Parts.Slot.default, .sample] twoClauses.selected := by decide
  have resolves : Reference.interpret (some "N".toList) = ([], "N".toList) := by decide
  exact ⟨permuted, resolves, rfl, (annotate_arrange twoClauses_writable permuted resolves {}).1⟩

/-- A comment that is read in the one order of its sentences and refused in the other. -/
theorem annotate_default_before_example :
    List.Perm [Parts.Slot.sample, .default] twoClauses.selected ∧
      List.Perm [Parts.Slot.default, .sample] twoClauses.selected ∧
      ((standard {} false).annotate (some "N".toList) (twoClauses.arrange [.sample, .default])
        {}).2 = .ok {} ∧
      ((standard {} false).annotate (some "N".toList) (twoClauses.arrange [.default, .sample])
        {}).2 = .error (.comment {
          problem := .defaultUnreadable "1\x60. For example: \x602".toList "N".toList
            "Invalid literal '1\x60. For example: \x602'".toList
          field := "N".toList
          text := some "1\x60. For example: \x602".toList }) := by
  exact ⟨by decide, by decide, by decide +kernel, by decide +kernel⟩

end Interpreter

end CommentSchema
