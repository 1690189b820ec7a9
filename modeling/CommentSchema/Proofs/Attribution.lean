import CommentSchema.Proofs.EnumBlock
import CommentSchema.Proofs.Sequence

/-! Every problem with a comment is about its field.  Inside of a type a problem may be without a
field, and only the field that the builder works for is ever named; each stage of a run names its
own field where none is named.  So a batch reports all problems under the names of their fields. -/

namespace CommentSchema

namespace Error

/-- About the field of none of the names. -/
def isAstray (names : List Text) : Error → Bool
  | comment fault => !names.contains fault.field
  | _ => false

theorem isAstray_onField {name : Text} {error : Error}
    (near : error.isAstray [[], name] = false) : (error.onField name).isAstray [name] = false := by
  cases error with
  | comment fault =>
      simp only [isAstray, Bool.not_eq_false', List.contains_iff_mem, List.mem_cons,
        List.not_mem_nil, or_false] at near
      rcases near with unnamed | named
      · simp [onField, CommentError.onField, isAstray, unnamed]
      · simp only [onField, CommentError.onField, isAstray, named]
        split
        · simp
        · simp [named]
  | _ => rfl

end Error

open Error (isAstray)

namespace TypeExpr

theorem not_astray_parse [Dialect] {names : List Text} {text : Text} {error : Error} :
    FailsWith (isAstray ([] :: names)) (parse text) error ↔ False := by
  rcases parse_cases text with ⟨problem, refused⟩ | ⟨-, refused⟩ | ⟨expr, -, same⟩
  · rw [refused, refuse, FailsWith.error_iff]
    simp [isAstray]
  · rw [refused, FailsWith.error_iff]
    simp [isAstray]
  · rw [same]
    exact FailsWith.ok_iff

end TypeExpr

namespace Builder

variable {builder : Builder} {field context : Text} {inline : Bool}
  {quoted : Text → Except Error Definition} {error : Error}

theorem not_astray_refuse {problem : Text → Problem} {expr : Expr} :
    FailsWith (isAstray [[], field]) (.error (refuse problem field expr) : Except Error α) error ↔
      False := by
  unfold refuse TypeExpr.print
  rw [FailsWith.error_iff]
  cases expr.print with
  | ok text => simp [isAstray]
  | error fault => cases fault <;> simp [Error.depthExceeded, isAstray]

theorem not_astray_noType {expr : Expr} :
    FailsWith (isAstray [[], field]) (.error (noType field expr) : Except Error α) error ↔
      False := by
  unfold noType
  split
  · rw [FailsWith.error_iff]
    simp [TypeExpr.tornError, isAstray]
  · exact not_astray_refuse

theorem not_astray_dottedName? {names : List Text} {expr : Expr} :
    FailsWith (isAstray names) (dottedName? expr) error ↔ False := by
  unfold dottedName?
  split
  · simp [FailsWith.error_iff, Error.depthExceeded, isAstray]
  · exact FailsWith.ok_iff

theorem not_astray_generic? {names : List Text} {base : Expr} :
    FailsWith (isAstray names) (generic? base) error ↔ False := by
  simp [generic?, FailsWith.bind_iff, not_astray_dottedName?, FailsWith.ok_iff]

theorem not_astray_combine {names : List Text} {expr : Expr} {members : Except Error Members}
    (inside : FailsWith (isAstray names) members error ↔ False) :
    FailsWith (isAstray names) (combine expr members) error ↔ False := by
  unfold combine
  split
  · exact FailsWith.ok_iff
  · split
    · simp [FailsWith.error_iff, Error.depthExceeded, isAstray]
    · rw [FailsWith.map_iff, inside]
  · rw [FailsWith.map_iff, inside]

section

variable {arguments : List Argument}
  (inside : ∀ argument ∈ arguments, ∀ error,
    FailsWith (isAstray [[], field]) (argument.node ()) error ↔ False)

include inside

theorem not_astray_firstNode :
    FailsWith (isAstray [[], field]) (firstNode arguments) error ↔ False := by
  cases arguments with
  | nil => simp [firstNode, FailsWith.error_iff, isAstray]
  | cons first others => exact inside first List.mem_cons_self error

theorem not_astray_argumentMembers :
    FailsWith (isAstray [[], field]) (argumentMembers arguments) error ↔ False := by
  induction arguments with
  | nil => exact FailsWith.ok_iff
  | cons first others ih =>
      rw [List.forall_mem_cons] at inside
      rw [argumentMembers]
      split
      · simp [FailsWith.bind_iff, ih inside.2, FailsWith.ok_iff]
      · simp [FailsWith.bind_iff, inside.1, ih inside.2, FailsWith.ok_iff]

theorem not_astray_mapped {expr : Expr} :
    FailsWith (isAstray [[], field]) (mapped field expr arguments) error ↔ False := by
  unfold mapped
  split
  · next key value =>
      simp [FailsWith.bind_iff, inside value (by simp), single, FailsWith.ok_iff]
  · exact not_astray_refuse

theorem not_astray_applied {expr base : Expr} :
    FailsWith (isAstray [[], field]) (applied field expr base arguments) error ↔ False := by
  rw [applied, FailsWith.bind_iff, not_astray_generic?, false_or]
  refine iff_of_false ?_ id
  rintro ⟨generic?, -, fails⟩
  cases generic? with
  | none => exact not_astray_refuse.mp fails
  | some generic =>
      cases generic with
      | array | optional =>
          simp [FailsWith.bind_iff, not_astray_firstNode inside, single, FailsWith.ok_iff] at fails
      | mapping => exact (not_astray_mapped inside).mp fails
      | union =>
          simp [FailsWith.bind_iff, not_astray_argumentMembers inside, single,
            FailsWith.ok_iff] at fails

end

theorem not_astray_members
    (quotations : ∀ text error, FailsWith (isAstray [[], field]) (quoted text) error ↔ False)
    (expr : Expr) (error : Error) :
    FailsWith (isAstray [[], field]) (builder.members field context inline quoted expr) error ↔
      False := by
  induction expr using Expr.typeInduction generalizing error with
  | null => exact FailsWith.ok_iff
  | quotation text marked =>
      simp [members, FailsWith.bind_iff, quotations, single, FailsWith.ok_iff]
  | name id => exact FailsWith.ok_iff
  | dotted value attr =>
      rw [members, FailsWith.bind_iff, not_astray_dottedName?, false_or]
      refine iff_of_false ?_ id
      rintro ⟨dotted?, -, fails⟩
      cases dotted? with
      | none => exact not_astray_refuse.mp fails
      | some dotted => exact FailsWith.ok_iff.mp fails
  | subscript base index inArguments =>
      rw [members_subscript]
      refine not_astray_applied fun argument member error => ?_
      obtain ⟨expr, inside, rfl⟩ := List.mem_map.mp member
      exact not_astray_combine (inArguments expr inside error)
  | alternatives left right inLeft inRight =>
      simp [members, joined, FailsWith.bind_iff, inLeft, inRight, FailsWith.ok_iff]
  | other expr form =>
      rw [members_of_not_isTypeForm _ _ _ _ _ form]
      exact not_astray_noType

theorem not_astray_node
    (quotations : ∀ text error, FailsWith (isAstray [[], field]) (quoted text) error ↔ False)
    (expr : Expr) :
    FailsWith (isAstray [[], field]) (builder.node field context inline quoted expr) error ↔
      False :=
  not_astray_combine (not_astray_members quotations expr error)

/-- A quoted type is parsed without a field and built for the same one, however deep it stands. -/
theorem not_astray_quotedNode [Dialect] (depth : Nat) (text : Text) (error : Error) :
    FailsWith (isAstray [[], field]) (builder.quotedNode field context inline depth text) error ↔
      False := by
  induction depth generalizing text error with
  | zero =>
      have deepest (text : Text) (error : Error) : FailsWith (isAstray [[], field])
          (.error .depthExceeded : Except Error Definition) error ↔ False := by
        simp [FailsWith.error_iff, Error.depthExceeded, isAstray]
      simp [quotedNode, FailsWith.bind_iff, TypeExpr.not_astray_parse, not_astray_node deepest]
  | succ depth ih =>
      simp [quotedNode, FailsWith.bind_iff, TypeExpr.not_astray_parse, not_astray_node ih]

theorem not_astray_build [Dialect] {expr : Expr} :
    FailsWith (isAstray [[], field]) (builder.build field expr context inline) error ↔ False := by
  rw [build]
  split
  · simp [FailsWith.error_iff, isAstray]
  · exact not_astray_node (fun text => not_astray_quotedNode text.length text) expr

theorem not_astray_buildOnStack [Dialect] {expr : Expr} :
    FailsWith (isAstray [[], field]) (builder.buildOnStack field expr context inline) error ↔
      False := by
  unfold buildOnStack
  split
  · simp [FailsWith.error_iff, isAstray]
  · simp [FailsWith.error_iff, isAstray]
  · exact not_astray_build

end Builder

namespace Comment

theorem not_astray_extractOneOf {names : List Text} {text : Text} {error : Error} :
    FailsWith (isAstray names) (extractOneOf text) error ↔ False := by
  unfold extractOneOf
  split
  · exact FailsWith.ok_iff
  · split
    · simp [FailsWith.error_iff, isAstray]
    · exact FailsWith.ok_iff

end Comment

namespace Interpreter

variable {builder : Builder} {strict : Bool} {name context text : Text} {error : Error}

theorem not_astray_checkLead {interpreter : Interpreter} {comment : Text} :
    FailsWith (isAstray [name]) (interpreter.checkLead name comment).outcome error ↔ False := by
  unfold checkLead
  split
  · simp [Run.fail, FailsWith.error_iff, malformed, isAstray]
  · exact FailsWith.ok_iff

theorem not_astray_checkDescription {interpreter : Interpreter} {description : Text} :
    FailsWith (isAstray [name]) (interpreter.checkDescription name description).outcome error ↔
      False := by
  unfold checkDescription
  split
  · split
    · simp [Run.fail, FailsWith.error_iff, malformed, isAstray]
    · split
      · simp [Run.fail, FailsWith.error_iff, malformed, isAstray]
      · exact FailsWith.ok_iff
  · exact FailsWith.ok_iff

theorem isAstray_defaultError (literal : Text) (fault : Error) :
    (defaultError literal name fault).isAstray [name] = false := by
  cases fault with
  | comment fault => simp [defaultError, Error.isUnfitValue, isAstray]
  | _ => simp [defaultError, Error.isUnfitValue, isAstray]

theorem isAstray_parseError (clause : Text) (fault : Error) :
    (parseError clause text name fault).isAstray [name] = false := by
  unfold parseError
  split
  · simp [isAstray]
  · next fits => cases fault <;> simp [Error.isUnfitValue, isAstray] at fits ⊢

theorem isAstray_buildError (clause : Text) {fault : Error}
    (near : fault.isAstray [[], name] = false) :
    (buildError clause text name fault).isAstray [name] = false := by
  unfold buildError
  split
  · simp [isAstray]
  · exact Error.isAstray_onField near

theorem not_astray_buildType [Dialect] {clause : Text} :
    FailsWith (isAstray [name])
      ((standard builder strict).buildType clause name context text).outcome error ↔ False := by
  simp only [buildType, Run.outcome_bind, Run.outcome_mapError, Run.outcome_call,
    FailsWith.bind_iff, FailsWith.mapError_iff, isAstray_parseError, Bool.false_eq_true,
    false_and, and_false, exists_false, false_or, iff_false, not_exists, not_and]
  intro expr _ fault failed astray
  have near : fault.isAstray [[], name] = false := by
    by_contra far
    exact Builder.not_astray_buildOnStack.mp ⟨failed, by simpa using far⟩
  rw [isAstray_buildError clause near] at astray
  cases astray

theorem not_astray_buildTypes [Dialect] {clause : Text} (texts : List Text) :
    FailsWith (isAstray [name])
      ((standard builder strict).buildTypes clause name context texts).outcome error ↔ False := by
  induction texts with
  | nil => exact FailsWith.ok_iff
  | cons text rest ih =>
      simp [buildTypes, FailsWith.bind_iff, not_astray_buildType, ih, FailsWith.ok_iff]

theorem not_astray_readDefault [Dialect] :
    FailsWith (isAstray [name]) ((standard builder strict).readDefault name text).outcome error ↔
      False := by
  unfold readDefault
  split
  · exact FailsWith.ok_iff
  · simp [FailsWith.bind_iff, FailsWith.mapError_iff, isAstray_defaultError, FailsWith.ok_iff]

theorem not_astray_readShape [Dialect] :
    FailsWith (isAstray [name]) ((standard builder strict).readShape name context text).outcome
      error ↔ False := by
  unfold readShape
  split
  · simp [FailsWith.bind_iff, not_astray_buildType, FailsWith.ok_iff]
  · rw [Run.outcome_bind, FailsWith.bind_iff, Run.outcome_lift, Comment.not_astray_extractOneOf,
      false_or]
    refine iff_of_false ?_ id
    rintro ⟨⟨rest, entries?⟩, -, fails⟩
    cases entries? with
    | none => exact FailsWith.ok_iff.mp fails
    | some entries =>
        simp [FailsWith.bind_iff, not_astray_buildTypes, FailsWith.ok_iff] at fails

theorem not_astray_reading [Dialect] {raw : Option Text} {comment : Text} :
    FailsWith (isAstray [(Reference.interpret raw).2])
      ((standard builder strict).reading raw comment) error ↔ False := by
  have enumPass (name : Text) (error : Error) : FailsWith (isAstray [name])
      ((Comment.EnumBlock.find comment).mapError fun fault => (Error.comment fault).onField name)
        error ↔ False := by
    rw [FailsWith.mapError_iff]
    refine iff_of_false ?_ id
    rintro ⟨fault, refused, astray, -⟩
    rw [Error.isAstray_onField] at astray
    · cases astray
    · simp [isAstray, Comment.EnumBlock.field_of_find refused]
  have resolves : (standard builder strict).resolveReference raw =
      .ok (Reference.interpret raw) := rfl
  simp only [reading, resolves, Error.ok_bind, FailsWith.bind_iff, not_astray_checkLead, enumPass,
    not_astray_readDefault, not_astray_readShape, not_astray_checkDescription, FailsWith.ok_iff]
  simp [standard, FailsWith.ok_iff]

theorem field_of_annotate [Dialect] {raw : Option Text} {comment : Text} {definition : Definition}
    {error : CommentError}
    (failed : ((standard builder strict).annotate raw comment definition).2 =
      .error (.comment error)) : error.field = (Reference.interpret raw).2 := by
  rw [annotate_eq _ raw comment rfl] at failed
  cases read : (standard builder strict).reading raw comment with
  | ok reading =>
      rw [read] at failed
      cases failed
  | error fault =>
      rw [read] at failed
      cases failed
      by_contra other
      refine not_astray_reading.mp ⟨read, ?_⟩
      simpa [isAstray] using other

variable {count : Nat}

theorem annotate_of_mem {interpreter : Interpreter} {definitions : Vector Definition count}
    {fields : List (FieldComment count)} {answer : Answer count}
    (member : answer ∈ (interpreter.annotateFields definitions fields).2) :
    ∃ definition, (interpreter.annotate answer.field.raw answer.field.comment definition).2 =
      answer.outcome := by
  induction fields generalizing definitions with
  | nil => cases member
  | cons field rest ih =>
      rcases List.mem_cons.mp member with rfl | later
      · exact ⟨_, rfl⟩
      · exact ih later

end Interpreter

namespace Batch

variable {count : Nat} {interpreter : Interpreter} {batch : Batch count}
  {field : FieldComment count} {error : Error}

theorem report_of_stop
    (stops : stop? interpreter.strict
      (interpreter.annotateField batch.definitions field).2 = some error) :
    (step interpreter batch field).1.report = batch.report := by
  rw [step_eq]
  cases outcome : (interpreter.annotateField batch.definitions field).2 with
  | ok info => rfl
  | error fault =>
      rw [outcome] at stops
      cases fault with
      | comment fault =>
          cases strict : interpreter.strict with
          | true => rfl
          | false =>
              rw [strict] at stops
              cases stops
      | _ => rfl

/-- A batch reports the problems of the fields that it goes on past. -/
theorem report_run (interpreter : Interpreter) (batch : Batch count)
    (fields : List (FieldComment count)) :
    (run interpreter batch fields).1.report.entries = batch.report.entries ++
      ((interpreter.annotateFields batch.definitions fields).2.takeWhile fun answer =>
        (stop? interpreter.strict answer.outcome).isNone).filterMap (·.reported?) := by
  induction fields generalizing batch with
  | nil => simp [run, Interpreter.annotateFields]
  | cons field rest ih =>
      simp only [Interpreter.annotateFields, List.takeWhile_cons]
      cases stops : stop? interpreter.strict
          (interpreter.annotateField batch.definitions field).2 with
      | none =>
          rw [run, step_of_goesOn stops]
          simp only [Option.isNone_none, if_true, ih]
          refine (List.append_assoc ..).trans (congrArg (batch.report.entries ++ ·) ?_)
          exact List.filterMap_append.symm
      | some error =>
          have kept := report_of_stop stops
          have ended := (step_stop? interpreter batch field).trans stops
          rcases stepped : step interpreter batch field with ⟨between, error?⟩
          rw [stepped] at kept ended
          cases ended
          simp only [run, stepped, Option.isNone_some, Bool.false_eq_true, if_false,
            List.filterMap_nil, List.append_nil]
          exact congrArg (·.entries) kept

/-- The name that the problems of a field are reported under: its plain name, or the raw one where
that is empty. -/
def nameOf (raw : Option Text) : Option Text :=
  if (Reference.interpret raw).2.isEmpty then raw else some (Reference.interpret raw).2

/-- Every problem with a comment names the field whose comment it is, so what a batch reports of a
field stands under the name of that field. -/
theorem report_names_fields [Dialect] (builder : Builder) (strict : Bool) :
    (∀ raw comment definition error,
      ((Interpreter.standard builder strict).annotate raw comment definition).2 =
        .error (.comment error) → error.field = (Reference.interpret raw).2) ∧
    ∀ (count : Nat) (batch : Batch count) (fields : List (FieldComment count)),
      let answers :=
        ((Interpreter.standard builder strict).annotateFields batch.definitions fields).2
      (run (.standard builder strict) batch fields).1.report.entries = batch.report.entries ++
        (answers.takeWhile fun answer => (stop? strict answer.outcome).isNone).filterMap
          fun answer => answer.problem?.map fun error =>
            (nameOf answer.field.raw, error.message) := by
  refine ⟨fun raw comment definition error => Interpreter.field_of_annotate,
    fun count batch fields => ?_⟩
  intro answers
  rw [report_run]
  refine congrArg (batch.report.entries ++ ·) (List.filterMap_congr fun answer member => ?_)
  obtain ⟨definition, ran⟩ :=
    Interpreter.annotate_of_mem ((List.takeWhile_sublist _).mem member)
  unfold Answer.reported? Answer.problem?
  split
  · next error failed =>
      have named := Interpreter.field_of_annotate (ran.trans failed)
      simp only [Option.map_some, fieldOf, nameOf, named]
  · rfl

/-- The text that is quoted inside of the type cannot be read. -/
def quotingField : FieldComment 1 :=
  { raw := some "p.B".toList, comment := "B is y. Schema type is \x60list['1 +']\x60.".toList
    target := ⟨0, Nat.zero_lt_one⟩ }

def namelessField : FieldComment 1 :=
  { raw := some "p.".toList, comment := "Defaults to \x60(\x60.".toList
    target := ⟨0, Nat.zero_lt_one⟩ }

def unreadableQuotation : CommentError :=
  ⟨.typeMalformed "1 +".toList "invalid syntax".toList, "B".toList, some "1 +".toList⟩

theorem report_names_fields_quotingField :
    ((Interpreter.standard {} false).annotate quotingField.raw quotingField.comment {}).2 =
        .error (.comment unreadableQuotation) ∧
      unreadableQuotation.field = (Reference.interpret quotingField.raw).2 ∧
      (run (.standard {} false) { definitions := #v[{}], report := ⟨[]⟩ }
          [quotingField, namelessField]).1.report.entries =
        [(some "B".toList, unreadableQuotation.message),
          (some "p.".toList, (Problem.defaultUnreadable "(".toList []
            "Invalid literal '('".toList).message)] := by
  have failed : ((Interpreter.standard {} false).annotate quotingField.raw
      quotingField.comment {}).2 = .error (.comment unreadableQuotation) := by
    decide +kernel
  obtain ⟨named, entries⟩ := report_names_fields {} false
  refine ⟨failed, named _ _ _ _ failed, (entries 1 _ _).trans ?_⟩
  decide +kernel

end Batch

end CommentSchema
