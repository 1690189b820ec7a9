import CommentSchema.Proofs.Breakage
import CommentSchema.Proofs.Overflow
import CommentSchema.Proofs.Reading

/-! What gets past the errors about a comment.  A comment whose list of types has no entries is
no matter of one field; beside that, only a default that is out of range and a type that breaks
the builder end a reading with an error that is not about the comment. -/

namespace CommentSchema

namespace Error

/-- Not about the content of a comment. -/
def escapes : Error → Bool
  | comment _ => false
  | _ => true

end Error

open Error (escapes)

namespace Comment

def typeText (comment : Text) : Text := (extractDefault (stripTags (body comment))).1

theorem clauses_default? (comment : Text) :
    (clauses comment).default? = (extractDefault (stripTags (body comment))).2 := by
  simp only [clauses]

theorem clauses_type? (comment : Text) :
    (clauses comment).type? = (typeClauses (typeText comment)).2.1 := by
  simp only [clauses, typeText]

theorem clauses_oneOf? (comment : Text) :
    (clauses comment).oneOf? = (typeClauses (typeText comment)).2.2 := by
  simp only [clauses, typeText]

/-- The reading of a comment gets as far as the clauses about its type. -/
structure ReachesType [Dialect] (comment : Text) : Prop where
  block : ∃ found, EnumBlock.find comment = .ok found
  default : ∀ literal ∈ (clauses comment).default?, ∃ value, Literal.read literal = .ok value

/-- The comment begins a list of types and has no entry in it. -/
structure Hollow [Dialect] (comment : Text) : Prop where
  reaches : ReachesType comment
  noOverride : (clauses comment).type? = none
  noEntries : ∃ before after, oneOfSplit? (typeText comment) = some (before, after) ∧
    entries after = []

end Comment

namespace Builder

variable [Dialect] (builder : Builder) (name context : Text)

/-- A text that can be read as a type, the building of which breaks before the stack gives out. -/
def TypeBreaks (text : Text) (error : Error) : Prop :=
  ∃ expr, TypeExpr.parse text = .ok expr ∧ Dialect.exhaustion? expr = none ∧
    isOverlong expr = false ∧ builder.Breaks name context false none expr error

/-- A comment ends its reading with an error that is not about it. -/
inductive CommentBreaks (comment : Text) : Error → Prop where
  | default {literal : Text} (block : ∃ found, Comment.EnumBlock.find comment = .ok found)
      (stated : (Comment.clauses comment).default? = some literal)
      (overflows : Literal.TextOverflows literal) : CommentBreaks comment .overflow
  | override {type : Text} {error : Error} (reaches : Comment.ReachesType comment)
      (stated : (Comment.clauses comment).type? = some type)
      (breaks : builder.TypeBreaks name context type error) : CommentBreaks comment error
  | oneOf {before after : List Text} {type : Text} {error : Error}
      (reaches : Comment.ReachesType comment)
      (stated : (Comment.clauses comment).oneOf? = some (before ++ type :: after))
      (denote : ∀ earlier ∈ before, ∃ node, builder.Denotes name context earlier node)
      (breaks : builder.TypeBreaks name context type error) : CommentBreaks comment error

end Builder

namespace Interpreter

variable {builder : Builder} {strict : Bool} {clause name context : Text} {error : Error}

theorem escapes_extractOneOf {text : Text} :
    FailsWith escapes (Comment.extractOneOf text) error ↔
      (∃ before after, Comment.oneOfSplit? text = some (before, after) ∧
        Comment.entries after = []) ∧ error = .oneOfWithoutEntries text := by
  unfold Comment.extractOneOf
  rcases Comment.oneOfSplit? text with _ | ⟨before, after⟩
  · simp [FailsWith.ok_iff]
  · cases found : Comment.entries after with
    | nil =>
        have without : ∃ before' after', some (before, after) = some (before', after') ∧
            Comment.entries after' = [] := ⟨before, after, rfl, found⟩
        simp only [found, FailsWith.error_iff, escapes, without, true_and]
    | cons first others =>
        simp only [found, FailsWith.ok_iff, false_iff]
        intro without
        obtain ⟨⟨_, _, same, none⟩, -⟩ := without
        cases same
        rw [found] at none
        cases none

theorem not_escapes_find {comment : Text} :
    ¬ FailsWith escapes ((Comment.EnumBlock.find comment).mapError
      fun error => (Error.comment error).onField name) error := by
  simp [FailsWith.mapError_iff, Error.onField, escapes]

variable [Dialect]

theorem isUnfitValue_of_parse {text : Text} (failed : TypeExpr.parse text = .error error) :
    error.isUnfitValue = true := by
  rcases TypeExpr.parse_cases text with ⟨problem, refused⟩ | ⟨-, refused⟩ | ⟨expr, -, same⟩
  · cases failed.symm.trans refused
    rfl
  · cases failed.symm.trans refused
    rfl
  · cases failed.symm.trans same

theorem not_escapes_parse {text : Text} :
    ¬ FailsWith escapes ((TypeExpr.parse text).mapError (parseError clause text name)) error := by
  intro fails
  obtain ⟨fault, failed, foreign, -⟩ := FailsWith.mapError_iff.mp fails
  have unfit := isUnfitValue_of_parse failed
  simp [parseError, unfit, escapes] at foreign

theorem escapes_build {text : Text} {expr : Expr} :
    FailsWith escapes ((builder.buildOnStack name expr context false).mapError
        (buildError clause text name)) error ↔
      FailsWith Error.isBreakage (builder.buildOnStack name expr context false) error := by
  rw [FailsWith.mapError_iff]
  cases builder.buildOnStack name expr context false with
  | ok node => simp [FailsWith.ok_iff]
  | error fault =>
      simp only [Except.error.injEq, exists_eq_left', FailsWith.error_iff]
      cases fault with
      | comment | tooDeep =>
          simp [buildError, Error.isTooDeep, Error.onField, escapes, Error.isBreakage]
      | _ => rfl

theorem escapes_buildType {text : Text} :
    FailsWith escapes ((standard builder strict).buildType clause name context text).outcome
        error ↔
      builder.TypeBreaks name context text error := by
  simp only [buildType, Run.outcome_bind, Run.outcome_mapError, Run.outcome_call,
    FailsWith.bind_iff, Error.mapError_eq_ok, standard, not_escapes_parse, escapes_build,
    Builder.breaksWith_buildOnStack, false_or]
  rfl

theorem escapes_buildTypes {texts : List Text} :
    FailsWith escapes ((standard builder strict).buildTypes clause name context texts).outcome
        error ↔
      Meets (fun text => ∃ node, builder.Denotes name context text node)
        (fun text => builder.TypeBreaks name context text error) texts := by
  induction texts with
  | nil => simp [buildTypes, FailsWith.ok_iff, not_meets_nil]
  | cons first rest ih =>
      simp only [buildTypes, Run.outcome_bind, FailsWith.bind_iff, escapes_buildType,
        buildType_eq_ok, ih, Run.outcome_pure, FailsWith.ok_iff, and_false, exists_false,
        or_false, meets_cons, exists_and_right]

theorem escapes_readDefault {text : Text} :
    FailsWith escapes ((standard builder strict).readDefault name text).outcome error ↔
      ∃ literal, (Comment.extractDefault text).2 = some literal ∧
        Literal.TextOverflows literal ∧ error = .overflow := by
  unfold readDefault
  rcases Comment.extractDefault text with ⟨rest, literal?⟩
  cases literal? with
  | none => simp [FailsWith.ok_iff]
  | some literal =>
      simp only [Run.outcome_bind, Run.outcome_mapError, Run.outcome_call, Run.outcome_pure,
        FailsWith.bind_iff, FailsWith.ok_iff, and_false, exists_false, or_false,
        Option.some.injEq, exists_eq_left', standard, ← Literal.read_eq_overflow,
        FailsWith.mapError_iff]
      cases read : Literal.read literal with
      | ok value => simp
      | error fault =>
          simp only [Except.error.injEq, exists_eq_left']
          rcases Literal.isUnfitValue_of_read read with rfl | unfit
          · simp [defaultError, Error.isUnfitValue, escapes]
          · have overflow : fault ≠ .overflow := by
              intro same
              rw [same] at unfit
              cases unfit
            simp [defaultError, unfit, escapes, overflow]

theorem escapes_readShape {text : Text} :
    FailsWith escapes ((standard builder strict).readShape name context text).outcome error ↔
      (∃ type, (Comment.typeClauses text).2.1 = some type ∧
        builder.TypeBreaks name context type error) ∨
      ((Comment.typeClauses text).2.1 = none ∧
        (∃ before after, Comment.oneOfSplit? text = some (before, after) ∧
          Comment.entries after = []) ∧ error = .oneOfWithoutEntries text) ∨
      ∃ types, (Comment.typeClauses text).2.2 = some types ∧
        Meets (fun type => ∃ node, builder.Denotes name context type node)
          (fun type => builder.TypeBreaks name context type error) types := by
  unfold readShape Comment.typeClauses
  rcases extracted : Comment.extractType text with ⟨rest, type?⟩
  cases type? with
  | some type =>
      simp only [Run.outcome_bind, FailsWith.bind_iff, escapes_buildType, Run.outcome_pure,
        FailsWith.ok_iff, and_false, exists_false, or_false, Option.some.injEq, exists_eq_left',
        reduceCtorEq, false_and]
  | none =>
      cases Comment.extractType_none extracted
      have hollow : FailsWith escapes (Comment.extractOneOf text) error ↔ _ :=
        escapes_extractOneOf
      simp only [Run.outcome_bind, Run.outcome_lift, FailsWith.bind_iff, ← hollow]
      rcases Comment.extractOneOf text with fault | ⟨after, _ | types⟩
      · simp
      · simp [FailsWith.ok_iff]
      · simp [FailsWith.bind_iff, escapes_buildTypes, FailsWith.ok_iff]

/-- The steps of a reading that can fail when nothing is strict. -/
theorem reading_standard (builder : Builder) {raw : Option Text} (comment : Text)
    (resolves : Reference.interpret raw = (context, name)) :
    ∃ conclude : Option Value → Text × Shape → Reading,
      (standard builder false).reading raw comment =
        ((Comment.EnumBlock.find comment).mapError
          fun error => (Error.comment error).onField name) >>= fun _ =>
        ((standard builder false).readDefault name
          (Comment.stripTags (Comment.body comment))).outcome >>= fun found =>
        ((standard builder false).readShape name context found.1).outcome >>= fun shaped =>
        .ok (conclude found.2 shaped) := by
  have resolved : (standard builder false).resolveReference raw = .ok (context, name) :=
    congrArg Except.ok resolves
  refine ⟨fun value? shaped =>
    { values? := Comment.blockValues? comment
      default? := value?
      shape := shaped.2
      example? := (Comment.extractExample shaped.1).2
      description := Comment.joinNonempty [' '] [Comment.removeName name
        (Comment.extractExample shaped.1).1, Comment.blockSentence comment]
      htmlDescription := Markdown.stripParagraphTags (Markdown.render
        (Comment.joinNonempty [' '] [Comment.removeName name
          (Comment.extractExample shaped.1).1, Comment.blockSentence comment]))
      required := Comment.isRequired (Comment.body comment) }, ?_⟩
  unfold Interpreter.reading
  rw [resolved]
  rfl

theorem reachesType_iff {comment : Text} :
    Comment.ReachesType comment ↔
      (∃ found, Comment.EnumBlock.find comment = .ok found) ∧
        ∃ found, ((standard builder strict).readDefault name
          (Comment.stripTags (Comment.body comment))).outcome = .ok found := by
  have reads : (∃ found, ((standard builder strict).readDefault name
      (Comment.stripTags (Comment.body comment))).outcome = .ok found) ↔
      ∀ literal ∈ (Comment.clauses comment).default?,
        ∃ value, Literal.read literal = .ok value := by
    simp only [Prod.exists, readDefault_eq_ok, exists_and_left, exists_eq_left, exists_rel,
      Comment.clauses_default?]
  rw [reads]
  exact ⟨fun reaches => ⟨reaches.block, reaches.default⟩, fun ⟨block, default⟩ => ⟨block, default⟩⟩

theorem exists_of_reachesType {comment : Text} (reaches : Comment.ReachesType comment) :
    (∃ found, Comment.EnumBlock.find comment = .ok found) ∧
      ∃ value?, ((standard builder strict).readDefault name
        (Comment.stripTags (Comment.body comment))).outcome =
          .ok (Comment.typeText comment, value?) := by
  obtain ⟨block, ⟨rest, value?⟩, readDefault⟩ := reachesType_iff.mp reaches
  obtain ⟨same, -⟩ := readDefault_eq_ok.mp readDefault
  rw [same, ← Comment.typeText] at readDefault
  exact ⟨block, value?, readDefault⟩

theorem escapes_reading {raw : Option Text} {comment : Text}
    (resolves : Reference.interpret raw = (context, name)) :
    FailsWith escapes ((standard builder false).reading raw comment) error ↔
      (Comment.Hollow comment ∧ error = .oneOfWithoutEntries (Comment.typeText comment)) ∨
        builder.CommentBreaks name context comment error := by
  obtain ⟨conclude, steps⟩ := reading_standard builder comment resolves
  simp only [steps, FailsWith.bind_iff, FailsWith.ok_iff, not_escapes_find, escapes_readDefault,
    escapes_readShape, and_false, exists_false, or_false, false_or, Error.mapError_eq_ok,
    Prod.exists]
  constructor
  -- The error is that of the default or, where the default can be read, that of a type.
  · intro fails
    rcases fails with ⟨block, found, ⟨literal, stated, overflows, rfl⟩ |
        ⟨rest, value?, readDefault, read⟩⟩
    · rw [← Comment.clauses_default?] at stated
      exact .inr (.default ⟨block, found⟩ stated overflows)
    · have reaches : Comment.ReachesType comment :=
        reachesType_iff.mpr ⟨⟨block, found⟩, _, readDefault⟩
      obtain ⟨same, -⟩ := readDefault_eq_ok.mp readDefault
      rw [same, ← Comment.typeText, ← Comment.clauses_type?, ← Comment.clauses_oneOf?] at read
      rcases read with ⟨type, stated, breaks⟩ | ⟨noOverride, noEntries, rfl⟩ |
        ⟨types, stated, before, type, after, rfl, denote, breaks⟩
      · exact .inr (.override reaches stated breaks)
      · exact .inl ⟨⟨reaches, noOverride, noEntries⟩, rfl⟩
      · exact .inr (.oneOf reaches stated denote breaks)
  · intro causes
    rcases causes with ⟨⟨reaches, noOverride, noEntries⟩, rfl⟩ | breaks
    · obtain ⟨⟨block, found⟩, value?, readDefault⟩ := exists_of_reachesType reaches
      rw [Comment.clauses_type?] at noOverride
      exact ⟨block, found, .inr ⟨_, _, readDefault, .inr (.inl ⟨noOverride, noEntries, rfl⟩)⟩⟩
    · cases breaks with
      | default found stated overflows =>
          obtain ⟨block, found⟩ := found
          rw [Comment.clauses_default?] at stated
          exact ⟨block, found, .inl ⟨_, stated, overflows, rfl⟩⟩
      | override reaches stated breaks =>
          obtain ⟨⟨block, found⟩, value?, readDefault⟩ := exists_of_reachesType reaches
          rw [Comment.clauses_type?] at stated
          exact ⟨block, found, .inr ⟨_, _, readDefault, .inl ⟨_, stated, breaks⟩⟩⟩
      | oneOf reaches stated denote breaks =>
          obtain ⟨⟨block, found⟩, value?, readDefault⟩ := exists_of_reachesType reaches
          rw [Comment.clauses_oneOf?] at stated
          exact ⟨block, found, .inr ⟨_, _, readDefault, .inr (.inr
            ⟨_, stated, _, _, _, rfl, denote, breaks⟩)⟩⟩

end Interpreter

end CommentSchema
