import CommentSchema.Proofs.Atomicity

/-! What a comment says does not depend on what is known about its field.  A comment is read
without looking at the definition, and the reading is entered into the definition afterwards;
a run with the enum blocks of this library does just that. -/

namespace CommentSchema

namespace Work

def result (work : Work α) (desk : Desk) : Except Error (Definition × α) :=
  (work desk).2.outcome >>= fun value => .ok ((work desk).1.work, value)

@[simp] theorem result_pure (value : α) (desk : Desk) :
    (pure value : Work α).result desk = .ok (desk.work, value) := rfl

@[simp] theorem result_aside_bind (run : Run α) (next : α → Work β) (desk : Desk) :
    (aside run >>= next).result desk = run.outcome >>= fun value => (next value).result desk := by
  cases run with
  | mk outcome calls =>
      cases outcome with
      | ok value => rfl
      | error error => rfl

@[simp] theorem result_copyCaller_bind (next : Unit → Work β) (desk : Desk) :
    (copyCaller >>= next).result desk = (next ()).result ⟨desk.caller, desk.caller⟩ := rfl

@[simp] theorem result_edit_bind (change : Definition → Definition) (next : Unit → Work β)
    (desk : Desk) :
    (edit change >>= next).result desk = (next ()).result ⟨desk.caller, change desk.work⟩ := rfl

@[simp] theorem result_handOut_bind (change : Definition → Run (Definition × α))
    (next : α → Work β) (desk : Desk) :
    (handOut change >>= next).result desk =
      (change desk.work).outcome >>= fun (work, value) =>
        (next value).result ⟨desk.caller, work⟩ := by
  change ((Work.bind (handOut change) next desk).2.outcome >>= fun value =>
    .ok ((Work.bind (handOut change) next desk).1.work, value)) = _
  simp only [Work.bind, handOut]
  cases change desk.work with
  | mk outcome calls =>
      cases outcome with
      | ok pair => rfl
      | error error => rfl

end Work

namespace Comment

/-- The first enum block of a comment and its values, where the comment has a sound one. -/
def foundBlock? (comment : Text) : Option (EnumBlock × List Text) :=
  match EnumBlock.find comment with
  | .ok found => found
  | .error _ => none

def block? (comment : Text) : Option EnumBlock := (foundBlock? comment).map (·.1)

def blockValues? (comment : Text) : Option (List Value) :=
  (foundBlock? comment).map (·.2.map .str)

def body (comment : Text) : Text := ((block? comment).map (·.remaining)).getD comment

/-- What stands for the enum block in the description. -/
def blockSentence (comment : Text) : Text := ((block? comment).map (·.sentence)).getD []

structure Clauses where
  default? : Option Text
  type? : Option Text
  oneOf? : Option (List Text)
  example? : Option Text
  rest : Text

theorem extractType_none {text rest : Text} (absent : extractType text = (rest, none)) :
    rest = text := by
  unfold extractType extract at absent
  split at absent
  · cases absent
  · cases absent
    rfl

/-- The type of a text, or else its list of types, and what is left of the text. -/
def typeClauses (text : Text) : Text × Option Text × Option (List Text) :=
  match extractType text with
  | (rest, some type) => (rest, some type, none)
  | (rest, none) =>
      match extractOneOf rest with
      | .ok (rest, oneOf?) => (rest, none, oneOf?)
      | .error _ => (rest, none, none)

/-- The clauses of a comment, each found in what the ones before it left. -/
def clauses (comment : Text) : Clauses :=
  let start := extractDefault (stripTags (body comment))
  let types := typeClauses start.1
  let finish := extractExample types.1
  { default? := start.2
    type? := types.2.1
    oneOf? := types.2.2
    example? := finish.2
    rest := finish.1 }

/-- The description that is left of a comment, without the sentence about its enum block. -/
def remainder (name comment : Text) : Text := removeName name (clauses comment).rest

end Comment

namespace Shape

/-- The clauses about the type that a shape comes from: a type, or else a list of types. -/
def ComesFrom (shape : Shape) (type? : Option Text) (oneOf? : Option (List Text)) : Prop :=
  match shape with
  | declared => type? = none ∧ oneOf? = none
  | replaced _ => type?.isSome ∧ oneOf? = none
  | alternatives _ => type? = none ∧ oneOf?.isSome

end Shape

/-- What a comment says, whatever is known about its field. -/
structure Reading where
  values? : Option (List Value)
  default? : Option Value
  shape : Shape
  example? : Option Text
  description : Text
  htmlDescription : Text
  required : Bool

namespace Reading

def info (reading : Reading) : Meta :=
  { required := reading.required, noDerive := reading.shape.noDerive }

def enter (reading : Reading) (definition : Definition) : Definition :=
  let shaped := reading.shape.apply { definition with
    enum := definition.enum.or reading.values?
    default := reading.default?.getD definition.default }
  { shaped with
    examples := (reading.example?.map ([·])).getD shaped.examples
    description := reading.description
    htmlDescription := reading.htmlDescription }

end Reading

/-- A relation is met by some optional value where the value that is there has a partner. -/
theorem exists_rel {relates : α → β → Prop} {item? : Option α} :
    (∃ value?, Option.Rel relates item? value?) ↔ ∀ item ∈ item?, ∃ value, relates item value := by
  cases item? with
  | none => exact iff_of_true ⟨none, .none⟩ fun _ member => nomatch member
  | some item =>
      constructor
      · intro related found stated
        obtain ⟨_, related⟩ := related
        cases stated
        cases related with
        | some related => exact ⟨_, related⟩
      · intro partners
        obtain ⟨value, related⟩ := partners item rfl
        exact ⟨some value, .some related⟩

namespace Builder

/-- A text denotes a definition: it can be read as a type, and that type can be built. -/
def Denotes [Dialect] (builder : Builder) (name context text : Text) (node : Definition) : Prop :=
  ∃ expr, TypeExpr.parse text = .ok expr ∧
    builder.buildOnStack name expr context false = .ok node

end Builder

namespace Interpreter

def reading (interpreter : Interpreter) (raw : Option Text) (comment : Text) :
    Except Error Reading := do
  let (context, name) ← interpreter.resolveReference raw
  (interpreter.checkLead name comment).outcome
  let _ ← (Comment.EnumBlock.find comment).mapError fun error => (Error.comment error).onField name
  let (description, default?) ←
    (interpreter.readDefault name (Comment.stripTags (Comment.body comment))).outcome
  let (description, shape) ← (interpreter.readShape name context description).outcome
  let found := Comment.extractExample description
  let description := Comment.removeName name found.1
  (interpreter.checkDescription name description).outcome
  let description :=
    Comment.joinNonempty [' '] [description, Comment.blockSentence comment]
  let html ← interpreter.render description
  .ok {
    values? := Comment.blockValues? comment
    example? := found.2
    default?, shape, description
    htmlDescription := Markdown.stripParagraphTags html
    required := Comment.isRequired (Comment.body comment) }

/-- The enum pass in two steps: what it finds, and what it does with it. -/
theorem apply_eq (definition : Definition) (comment : Text) :
    Comment.EnumBlock.apply definition comment =
      match Comment.EnumBlock.find comment with
      | .error error => .error (.comment error)
      | .ok _ => .ok (
          { definition with enum := definition.enum.or (Comment.blockValues? comment) },
          Comment.block? comment) := by
  unfold Comment.EnumBlock.apply Comment.blockValues? Comment.block? Comment.foundBlock?
  cases Comment.EnumBlock.find comment with
  | error error => rfl
  | ok block? =>
      cases block? with
      | none =>
          cases definition
          simp
      | some block => cases definition.enum <;> rfl

/-- A run enters the reading of the comment into the caller's definition. -/
theorem result_prepare {interpreter : Interpreter} (raw : Option Text) (comment : Text)
    (blocks : interpreter.enumPass = fun _ => Comment.EnumBlock.apply) (desk : Desk) :
    (interpreter.prepare raw comment).result desk =
      interpreter.reading raw comment >>= fun reading =>
        .ok (reading.enter desk.caller, reading.info) := by
  unfold prepare reading
  simp only [Work.result_aside_bind, Work.result_copyCaller_bind, Work.result_edit_bind,
    Work.result_handOut_bind, Work.result_pure, blocks, apply_eq, bind_assoc]
  refine bind_congr fun (context, name) => bind_congr fun _ => ?_
  cases Comment.EnumBlock.find comment with
  | error error => rfl
  | ok found => rfl

theorem annotate_eq (interpreter : Interpreter) (raw : Option Text) (comment : Text)
    (blocks : interpreter.enumPass = fun _ => Comment.EnumBlock.apply)
    (definition : Definition) :
    interpreter.annotate raw comment definition =
      match interpreter.reading raw comment with
      | .ok reading => (reading.enter definition, .ok reading.info)
      | .error error => (definition, .error error) := by
  have entered := result_prepare raw comment blocks ⟨definition, {}⟩
  have kept := keepsCaller_prepare interpreter raw comment ⟨definition, {}⟩
  unfold Work.result at entered
  rcases prepared : interpreter.prepare raw comment ⟨definition, {}⟩ with ⟨desk, outcome, calls⟩
  rw [prepared] at entered kept
  cases outcome with
  | ok info =>
      simp only [annotate, perform_of_prepare_ok prepared]
      cases read : interpreter.reading raw comment with
      | ok reading =>
          rw [read] at entered
          obtain ⟨finished, answered⟩ := Prod.mk.inj (Except.ok.inj entered)
          exact Prod.ext finished (congrArg Except.ok answered)
      | error error =>
          rw [read] at entered
          cases entered
  | error error =>
      simp only [annotate, perform_of_prepare_error prepared]
      cases read : interpreter.reading raw comment with
      | ok reading =>
          rw [read] at entered
          cases entered
      | error error' =>
          rw [read] at entered
          cases entered
          exact Prod.ext kept rfl

theorem readDefault_ok {interpreter : Interpreter} {name text rest : Text}
    {value? : Option Value}
    (read : (interpreter.readDefault name text).outcome = .ok (rest, value?)) :
    rest = (Comment.extractDefault text).1 ∧
      value?.isSome = (Comment.extractDefault text).2.isSome := by
  unfold readDefault at read
  rcases extracted : Comment.extractDefault text with ⟨before, literal?⟩
  rw [extracted] at read
  cases literal? with
  | none =>
      cases read
      exact ⟨rfl, rfl⟩
  | some literal =>
      rw [Run.outcome_bind] at read
      obtain ⟨value, -, same⟩ := Error.bind_eq_ok.mp read
      cases same
      exact ⟨rfl, rfl⟩

theorem readShape_ok {interpreter : Interpreter} {name context text rest : Text} {shape : Shape}
    (read : (interpreter.readShape name context text).outcome = .ok (rest, shape)) :
    rest = (Comment.typeClauses text).1 ∧
      shape.ComesFrom (Comment.typeClauses text).2.1 (Comment.typeClauses text).2.2 := by
  unfold readShape at read
  unfold Comment.typeClauses
  rcases extracted : Comment.extractType text with ⟨before, type?⟩
  rw [extracted] at read
  cases type? with
  | some type =>
      rw [Run.outcome_bind] at read
      obtain ⟨replacement, -, same⟩ := Error.bind_eq_ok.mp read
      cases same
      exact ⟨rfl, rfl, rfl⟩
  | none =>
      rw [Run.outcome_bind, Run.outcome_lift] at read
      obtain ⟨⟨after, oneOf?⟩, found, next⟩ := Error.bind_eq_ok.mp read
      simp only [found]
      cases oneOf? with
      | none =>
          cases next
          exact ⟨rfl, rfl, rfl⟩
      | some oneOf =>
          rw [Run.outcome_bind] at next
          obtain ⟨nodes, -, same⟩ := Error.bind_eq_ok.mp next
          cases same
          exact ⟨rfl, rfl, rfl⟩

/-- What the steps of a reading that ends well have answered. -/
theorem steps_of_reading {interpreter : Interpreter} {raw : Option Text} {comment : Text}
    {reading : Reading} (read : interpreter.reading raw comment = .ok reading) :
    ∃ context name afterDefault value? afterShape shape,
      interpreter.resolveReference raw = .ok (context, name) ∧
      (interpreter.readDefault name (Comment.stripTags (Comment.body comment))).outcome =
        .ok (afterDefault, value?) ∧
      (interpreter.readShape name context afterDefault).outcome = .ok (afterShape, shape) ∧
      reading.values? = Comment.blockValues? comment ∧ reading.default? = value? ∧
      reading.shape = shape ∧ reading.example? = (Comment.extractExample afterShape).2 ∧
      reading.description = Comment.joinNonempty [' ']
        [Comment.removeName name (Comment.extractExample afterShape).1,
          Comment.blockSentence comment] := by
  unfold Interpreter.reading at read
  obtain ⟨⟨context, name⟩, resolves, read⟩ := Error.bind_eq_ok.mp read
  obtain ⟨_, -, read⟩ := Error.bind_eq_ok.mp read
  obtain ⟨_, -, read⟩ := Error.bind_eq_ok.mp read
  obtain ⟨⟨afterDefault, value?⟩, readDefault, read⟩ := Error.bind_eq_ok.mp read
  obtain ⟨⟨afterShape, shape⟩, readShape, read⟩ := Error.bind_eq_ok.mp read
  obtain ⟨_, -, read⟩ := Error.bind_eq_ok.mp read
  obtain ⟨html, -, read⟩ := Error.bind_eq_ok.mp read
  rw [← Except.ok.inj read]
  exact ⟨context, name, afterDefault, value?, afterShape, shape, resolves, readDefault, readShape,
    rfl, rfl, rfl, rfl, rfl⟩

/-- What was read are the clauses of the comment. -/
theorem reading_ok {interpreter : Interpreter} {raw : Option Text} {comment : Text}
    {reading : Reading} (read : interpreter.reading raw comment = .ok reading) :
    reading.values? = Comment.blockValues? comment ∧
      reading.default?.isSome = (Comment.clauses comment).default?.isSome ∧
      reading.shape.ComesFrom (Comment.clauses comment).type? (Comment.clauses comment).oneOf? ∧
      reading.example? = (Comment.clauses comment).example? := by
  obtain ⟨context, name, _, value?, _, shape, -, readDefault, readShape, values, rfl, rfl,
    example?, -⟩ := steps_of_reading read
  obtain ⟨rfl, present⟩ := readDefault_ok readDefault
  obtain ⟨rfl, comes⟩ := readShape_ok readShape
  simp only [Comment.clauses]
  exact ⟨values, present, comes, example?⟩

theorem description_of_reading {interpreter : Interpreter} {raw : Option Text}
    {comment context name : Text} {reading : Reading}
    (resolves : interpreter.resolveReference raw = .ok (context, name))
    (read : interpreter.reading raw comment = .ok reading) :
    reading.description = Comment.joinNonempty [' ']
      [Comment.remainder name comment, Comment.blockSentence comment] := by
  obtain ⟨_, _, _, _, _, _, same, readDefault, readShape, -, -, -, -, description⟩ :=
    steps_of_reading read
  cases resolves.symm.trans same
  obtain ⟨rfl, -⟩ := readDefault_ok readDefault
  obtain ⟨rfl, -⟩ := readShape_ok readShape
  simp only [Comment.remainder, Comment.clauses]
  exact description

section

variable [Dialect] {builder : Builder} {strict : Bool} {clause name context : Text}

theorem buildType_eq_ok {text : Text} {node : Definition} :
    ((standard builder strict).buildType clause name context text).outcome = .ok node ↔
      builder.Denotes name context text node := by
  simp only [buildType, Run.outcome_bind, Run.outcome_mapError, Run.outcome_call,
    Error.bind_eq_ok, Error.mapError_eq_ok]
  rfl

theorem readDefault_eq_ok {text rest : Text} {value? : Option Value} :
    ((standard builder strict).readDefault name text).outcome = .ok (rest, value?) ↔
      rest = (Comment.extractDefault text).1 ∧
        Option.Rel (fun literal value => Literal.read literal = .ok value)
          (Comment.extractDefault text).2 value? := by
  unfold readDefault
  rcases Comment.extractDefault text with ⟨before, literal?⟩
  cases literal? with
  | none =>
      simp only [Run.outcome_pure, Except.ok.injEq, Prod.mk.injEq]
      constructor
      · intro read
        obtain ⟨rfl, rfl⟩ := read
        exact ⟨rfl, .none⟩
      · intro read
        obtain ⟨rfl, ⟨⟩⟩ := read
        exact ⟨rfl, rfl⟩
  | some literal =>
      simp only [Run.outcome_bind, Run.outcome_mapError, Run.outcome_call, Run.outcome_pure,
        Error.bind_eq_ok, Error.mapError_eq_ok, Except.ok.injEq, Prod.mk.injEq]
      constructor
      · intro read
        obtain ⟨value, read, rfl, rfl⟩ := read
        exact ⟨rfl, .some read⟩
      · intro read
        obtain ⟨rfl, read⟩ := read
        cases read with
        | some read => exact ⟨_, read, rfl, rfl⟩

end

end Interpreter

end CommentSchema
