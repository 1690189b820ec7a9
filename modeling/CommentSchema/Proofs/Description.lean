import CommentSchema.Proofs.Collapsed

/-! A missing description.  What the readers of the clauses leave does not end with a blank, and of
such a text the name and a verb never take everything.  So the strict check, which looks at the
description without its name, finds none exactly where the clauses have left nothing. -/

namespace CommentSchema

namespace Comment

theorem removeName_ne_nil {name text : Text} (nonempty : text ≠ [])
    (visible : ∀ c ∈ text.getLast?, Text.isBlank c = false) : removeName name text ≠ [] := by
  intro nothing
  have last := getLast?_removeName name (getLast?_ne_space visible)
  rw [nothing, List.getLast?_nil] at last
  exact nonempty (List.getLast?_eq_none_iff.mp last.symm)

theorem removeName_nil (name : Text) : removeName name [] = [] := by
  unfold removeName
  cases name with
  | nil => rfl
  | cons c rest => rfl

end Comment

namespace Interpreter

/-- A run gets past the clauses: this is what they leave of the comment, with the name still in
it. -/
def ReachesDescription (interpreter : Interpreter) (raw : Option Text) (comment : Text)
    (definition : Definition) (text : Text) : Prop :=
  ∃ context name marked block? start value? shaped shape,
    interpreter.resolveReference raw = .ok (context, name) ∧
    (interpreter.checkLead name comment).outcome = .ok () ∧
    interpreter.enumPass context definition comment = .ok (marked, block?) ∧
    (interpreter.readDefault name
      (Comment.stripTags ((block?.map (·.remaining)).getD comment))).outcome = .ok (start, value?) ∧
    (interpreter.readShape name context start).outcome = .ok (shaped, shape) ∧
    text = (Comment.extractExample shaped).1

section

variable [Dialect] {builder : Builder} {strict : Bool} {raw : Option Text} {comment text : Text}
  {definition : Definition}

theorem block_of_enumPass {context : Text} {marked : Definition}
    {block? : Option Comment.EnumBlock}
    (marks : (standard builder strict).enumPass context definition comment =
      .ok (marked, block?)) :
    (∃ found, Comment.EnumBlock.find comment = .ok found) ∧ block? = Comment.block? comment := by
  have applied : Comment.EnumBlock.apply definition comment = .ok (marked, block?) := marks
  rw [apply_eq] at applied
  cases found : Comment.EnumBlock.find comment with
  | error fault =>
      rw [found] at applied
      cases applied
  | ok found? =>
      rw [found] at applied
      cases applied
      exact ⟨⟨found?, rfl⟩, rfl⟩

theorem rest_of_reachesDescription
    (reaches : (standard builder strict).ReachesDescription raw comment definition text) :
    text = (Comment.clauses comment).rest := by
  obtain ⟨context, name, marked, block?, start, value?, shaped, shape, -, -, marks, readDefault,
    readShape, rfl⟩ := reaches
  obtain ⟨-, rfl⟩ := block_of_enumPass marks
  obtain ⟨rfl, -⟩ := readDefault_ok readDefault
  obtain ⟨rfl, -⟩ := readShape_ok readShape
  rfl

theorem getLast?_of_reachesDescription
    (reaches : (standard builder strict).ReachesDescription raw comment definition text) :
    ∀ c ∈ text.getLast?, Text.isBlank c = false := by
  rw [rest_of_reachesDescription reaches]
  exact (Comment.collapsed_rest comment).last

/-- Nothing but the check of the description can still go wrong there. -/
theorem annotate_of_reachesDescription
    (reaches : (standard builder strict).ReachesDescription raw comment definition text)
    (error : Error) :
    ((standard builder strict).annotate raw comment definition).2 = .error error ↔
      ((standard builder strict).checkDescription (Reference.interpret raw).2
        (Comment.removeName (Reference.interpret raw).2 text)).outcome = .error error := by
  obtain ⟨context, name, marked, block?, start, value?, shaped, shape, resolves, lead, marks,
    readDefault, readShape, rfl⟩ := reaches
  obtain ⟨⟨found, finds⟩, rfl⟩ := block_of_enumPass marks
  have interpreted : Reference.interpret raw = (context, name) := Except.ok.inj resolves
  have read : ∃ reading, (standard builder strict).reading raw comment =
      ((standard builder strict).checkDescription name
        (Comment.removeName name (Comment.extractExample shaped).1)).outcome >>= fun _ =>
        .ok reading := by
    unfold reading
    rw [resolves, Error.ok_bind]
    simp only [lead, finds, Except.mapError, Error.ok_bind, Comment.body, readDefault, readShape]
    exact ⟨_, rfl⟩
  obtain ⟨reading, read⟩ := read
  rw [annotate_eq _ raw comment rfl, interpreted, read]
  cases ((standard builder strict).checkDescription name
    (Comment.removeName name (Comment.extractExample shaped).1)).outcome with
  | ok _ => simp [Error.ok_bind]
  | error fault => simp [bind, Except.bind]

theorem checkDescription_eq_missing_iff {name description : Text} (named : name ≠ []) :
    ((standard builder true).checkDescription name description).outcome =
        .error (malformed (.descriptionMissing name) name none) ↔ description = [] := by
  have full : name.isEmpty = false := by simpa using named
  unfold checkDescription
  cases description with
  | nil => simp [standard, full, Run.fail]
  | cons c rest =>
      by_cases ends : (c :: rest).getLast? = some '.'
      · simp [standard, full, ends]
      · simp [standard, full, ends, Run.fail, malformed]

/-- Strict mode misses a description exactly where the clauses leave nothing of the comment: what
they leave does not end with a blank, and the name is never all of such a text. -/
theorem annotate_descriptionMissing_iff (builder : Builder) :
    (∀ name text : Text, text ≠ [] → (∀ c ∈ text.getLast?, Text.isBlank c = false) →
      Comment.removeName name text ≠ []) ∧
    (∀ strict raw comment definition text,
      (standard builder strict).ReachesDescription raw comment definition text →
        ∀ c ∈ text.getLast?, Text.isBlank c = false) ∧
    ∀ raw comment definition text, (Reference.interpret raw).2 ≠ [] →
      (standard builder true).ReachesDescription raw comment definition text →
      let name := (Reference.interpret raw).2
      ((standard builder true).annotate raw comment definition).2 =
        .error (malformed (.descriptionMissing name) name none) ↔ text = [] := by
  refine ⟨fun name text => Comment.removeName_ne_nil,
    fun strict raw comment definition text reaches => getLast?_of_reachesDescription reaches,
    fun raw comment definition text named reaches => ?_⟩
  intro name
  rw [annotate_of_reachesDescription reaches, checkDescription_eq_missing_iff named]
  constructor
  · intro nothing
    by_contra nonempty
    exact Comment.removeName_ne_nil nonempty (getLast?_of_reachesDescription reaches) nothing
  · intro nothing
    rw [nothing]
    exact Comment.removeName_nil name

end

/-- The name of the field begins a clause that takes all of the comment. -/
def bareExample : Text := "For example: \x60x\x60.".toList

theorem bareExample_reachesDescription :
    (standard {} true).ReachesDescription (some "For".toList) bareExample {} [] := by
  have unmarked : Comment.EnumBlock.find bareExample = .ok none := by decide +kernel
  have stripped : Comment.stripTags bareExample = bareExample := by decide +kernel
  have undefaulted : Comment.extractDefault bareExample = (bareExample, none) := by
    decide +kernel
  have untyped : Comment.extractType bareExample = (bareExample, none) := by decide +kernel
  have unlisted : Comment.extractOneOf bareExample = .ok (bareExample, none) := by decide +kernel
  refine ⟨[], "For".toList, {}, none, bareExample, none, bareExample, .declared, rfl,
    by decide +kernel, ?_, ?_, ?_, by decide +kernel⟩
  · simp [standard, Comment.EnumBlock.apply, unmarked]
  · simp [readDefault, stripped, undefaulted]
  · simp [readShape, untyped, unlisted, Error.ok_bind]

theorem annotate_descriptionMissing_bareExample :
    Comment.removeName "Foo".toList "Foo is".toList ≠ [] ∧
      ((standard {} true).annotate (some "For".toList) bareExample {}).2 =
        .error (malformed (.descriptionMissing "For".toList) "For".toList none) := by
  obtain ⟨stays, -, missing⟩ := annotate_descriptionMissing_iff {}
  refine ⟨stays "Foo".toList "Foo is".toList (by decide) fun c last => ?_, ?_⟩
  · cases last
    decide
  · exact (missing (some "For".toList) bareExample {} [] (by decide)
      bareExample_reachesDescription).mpr rfl

end Interpreter

end CommentSchema
