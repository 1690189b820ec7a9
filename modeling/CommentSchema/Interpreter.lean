import CommentSchema.Builder
import CommentSchema.Comment.Clause
import CommentSchema.Comment.EnumBlock
import CommentSchema.Comment.Paraphrase
import CommentSchema.Comment.Tags
import CommentSchema.Definition.Adopt
import CommentSchema.Literal
import CommentSchema.Markdown.Paragraph
import CommentSchema.Markdown.Render

/-! The interpretation of the comment of one field.  The passes run in a fixed order, each on
what the one before left of the comment; the work of single passes is done by collaborators
that can be exchanged, and a run keeps track of the calls it makes to them.  What is found
goes into a copy of the caller's definition, and the copy is taken over at the very end. -/

namespace CommentSchema

/-- A call to a collaborator with what it is told apart from definitions and expressions. -/
inductive Call where
  | resolveReference (raw : Option Text)
  | enumPass (context comment : Text)
  | parseType (text : Text)
  | buildNode (field context : Text) (inline : Bool)
  | parseLiteral (text : Text)
  | render (text : Text)
deriving DecidableEq, Repr

structure Run (α : Type) where
  outcome : Except Error α
  calls : List Call := []

namespace Run

protected def pure (value : α) : Run α := ⟨.ok value, []⟩

protected def bind (run : Run α) (next : α → Run β) : Run β :=
  match run.outcome with
  | .ok value => ⟨(next value).outcome, run.calls ++ (next value).calls⟩
  | .error error => ⟨.error error, run.calls⟩

instance : Monad Run where
  pure := Run.pure
  bind := Run.bind

def fail (error : Error) : Run α := ⟨.error error, []⟩

def call (call : Call) (outcome : Except Error α) : Run α := ⟨outcome, [call]⟩

def lift (outcome : Except Error α) : Run α := ⟨outcome, []⟩

def mapError (run : Run α) (change : Error → Error) : Run α :=
  ⟨run.outcome.mapError change, run.calls⟩

@[simp] theorem calls_pure (value : α) : (pure value : Run α).calls = [] := rfl

@[simp] theorem outcome_pure (value : α) : (pure value : Run α).outcome = .ok value := rfl

theorem bind_ok {run : Run α} {value : α} (h : run.outcome = .ok value) (next : α → Run β) :
    (run >>= next) = ⟨(next value).outcome, run.calls ++ (next value).calls⟩ := by
  simp [bind, Run.bind, h]

@[simp] theorem outcome_bind (run : Run α) (next : α → Run β) :
    (run >>= next).outcome = run.outcome >>= fun value => (next value).outcome := by
  cases h : run.outcome with
  | ok value => rw [bind_ok h]; rfl
  | error error =>
      simp only [bind, Run.bind, h]
      rfl

@[simp] theorem outcome_call (call : Call) (outcome : Except Error α) :
    (Run.call call outcome).outcome = outcome := rfl

@[simp] theorem outcome_lift (outcome : Except Error α) : (lift outcome).outcome = outcome := rfl

@[simp] theorem outcome_mapError (run : Run α) (change : Error → Error) :
    (run.mapError change).outcome = run.outcome.mapError change := rfl

theorem bind_error {run : Run α} {error : Error} (h : run.outcome = .error error)
    (next : α → Run β) : (run >>= next) = ⟨.error error, run.calls⟩ := by
  simp [bind, Run.bind, h]

end Run

/-- The definition of the caller, and the copy of it that is worked on. -/
structure Desk where
  caller : Definition
  work : Definition

/-- Work at a desk.  Where it fails, what it changed before stays changed. -/
def Work (α : Type) := Desk → Desk × Run α

namespace Work

protected def pure (value : α) : Work α := fun desk => (desk, pure value)

protected def bind (first : Work α) (next : α → Work β) : Work β := fun desk =>
  match first desk with
  | (desk, ⟨.ok value, calls⟩) =>
      let (desk, run) := next value desk
      (desk, ⟨run.outcome, calls ++ run.calls⟩)
  | (desk, ⟨.error error, calls⟩) => (desk, ⟨.error error, calls⟩)

instance : Monad Work where
  pure := Work.pure
  bind := Work.bind

theorem bind_ok {first : Work α} {desk after : Desk} {value : α} {calls : List Call}
    (done : first desk = (after, ⟨.ok value, calls⟩)) (next : α → Work β) :
    (first >>= next) desk = ((next value after).1,
      ⟨(next value after).2.outcome, calls ++ (next value after).2.calls⟩) := by
  simp only [bind, Work.bind, done]

theorem bind_error {first : Work α} {desk after : Desk} {error : Error} {calls : List Call}
    (failed : first desk = (after, ⟨.error error, calls⟩)) (next : α → Work β) :
    (first >>= next) desk = (after, ⟨.error error, calls⟩) := by
  simp only [bind, Work.bind, failed]

def aside (run : Run α) : Work α := fun desk => (desk, run)

def copyCaller : Work Unit := fun desk => ({ desk with work := desk.caller }, pure ())

def edit (change : Definition → Definition) : Work Unit :=
  fun desk => ({ desk with work := change desk.work }, pure ())

/-- The copy is handed out and comes back with an answer. -/
def handOut (change : Definition → Run (Definition × α)) : Work α := fun desk =>
  match change desk.work with
  | ⟨.ok (work, value), calls⟩ => ({ desk with work }, ⟨.ok value, calls⟩)
  | ⟨.error error, calls⟩ => (desk, ⟨.error error, calls⟩)

/-- The caller's definition takes over every field of the copy. -/
def commit : Work Unit := fun desk =>
  let (caller, outcome) := desk.caller.adopt desk.work
  ({ desk with caller }, .lift outcome)

end Work

inductive Shape where
  | declared
  | replaced (definition : Definition)
  | alternatives (oneOf : List Definition)

namespace Shape

def apply : Shape → Definition → Definition
  | declared, work => work
  | replaced definition, _ => definition
  | alternatives oneOf, work => { work with oneOf }

def noDerive : Shape → Bool
  | replaced _ => true
  | _ => false

end Shape

structure Interpreter where
  strict : Bool := false
  resolveReference : Option Text → Except Error (Text × Text) :=
    fun raw => .ok (Reference.interpret raw)
  enumPass : Text → Definition → Text → Except Error (Definition × Option Comment.EnumBlock) :=
    fun _ definition comment => Comment.EnumBlock.apply definition comment
  parseType : Text → Except Error Expr
  buildNode : Text → Expr → Text → Bool → Except Error Definition
  parseLiteral : Text → Except Error Value
  render : Text → Except Error Text := fun text => .ok (Markdown.render text)

namespace Interpreter

def standard [Dialect] (builder : Builder) (strict : Bool) : Interpreter where
  strict := strict
  parseType := TypeExpr.parse
  buildNode := builder.buildOnStack
  parseLiteral := Literal.read

def malformed (problem : Problem) (name : Text) (text : Option Text) : Error :=
  .comment ⟨problem, name, text⟩

def checkLead (interpreter : Interpreter) (name comment : Text) : Run Unit :=
  if interpreter.strict && !name.isEmpty && !(name ++ [' ']).isPrefixOf comment then
    .fail (malformed (.nameNotFirst name) name (some comment))
  else pure ()

def checkDescription (interpreter : Interpreter) (name description : Text) : Run Unit :=
  if interpreter.strict && !name.isEmpty then
    if description.isEmpty then .fail (malformed (.descriptionMissing name) name none)
    else if description.getLast? != some '.' then
      .fail (malformed (.descriptionUnended name) name (some description))
    else pure ()
  else pure ()

/-- An unfit literal is a problem of the default clause. -/
def defaultError (text name : Text) (error : Error) : Error :=
  if error.isUnfitValue then
    .comment ⟨.defaultUnreadable text name error.message, name, some text⟩
  else error

def parseError (clause text name : Text) (error : Error) : Error :=
  if error.isUnfitValue || error.isMisspelled || error.isTooDeep then
    .comment ⟨.clauseUnreadable clause text name error.message, name, some text⟩
  else error

def buildError (clause text name : Text) (error : Error) : Error :=
  if error.isTooDeep then .comment ⟨.clauseTooDeep clause text name, name, some text⟩
  else error.onField name

def overrideClause : Text := "type override".toList

def oneOfClause : Text := "\x60oneOf\x60 type".toList

def buildType (interpreter : Interpreter) (clause name context text : Text) : Run Definition := do
  let expr ← (Run.call (.parseType text) (interpreter.parseType text)).mapError
    (parseError clause text name)
  (Run.call (.buildNode name context false)
    (interpreter.buildNode name expr context false)).mapError
    (buildError clause text name)

def buildTypes (interpreter : Interpreter) (clause name context : Text) :
    List Text → Run (List Definition)
  | [] => pure []
  | text :: rest => do
      let first ← interpreter.buildType clause name context text
      let others ← interpreter.buildTypes clause name context rest
      pure (first :: others)

def readDefault (interpreter : Interpreter) (name description : Text) :
    Run (Text × Option Value) :=
  match Comment.extractDefault description with
  | (rest, none) => pure (rest, none)
  | (rest, some literal) => do
      let value ← (Run.call (.parseLiteral literal) (interpreter.parseLiteral literal)).mapError
        (defaultError literal name)
      pure (rest, some value)

def readShape (interpreter : Interpreter) (name context description : Text) :
    Run (Text × Shape) :=
  match Comment.extractType description with
  | (rest, some text) => do
      let replacement ← interpreter.buildType overrideClause name context text
      pure (rest, .replaced replacement)
  | (description, none) => do
      match ← Run.lift (Comment.extractOneOf description) with
      | (rest, none) => pure (rest, .declared)
      | (rest, some entries) =>
          let oneOf ← interpreter.buildTypes oneOfClause name context entries
          pure (rest, .alternatives oneOf)

/-- Everything before the copy is taken over. -/
def prepare (interpreter : Interpreter) (raw : Option Text) (comment : Text) : Work Meta := do
  let (context, name) ← .aside
    (Run.call (.resolveReference raw) (interpreter.resolveReference raw))
  .aside (interpreter.checkLead name comment)
  .copyCaller
  let block ← .handOut fun work =>
    (Run.call (.enumPass context comment) (interpreter.enumPass context work comment)).mapError
      (·.onField name)
  let comment := (block.map (·.remaining)).getD comment
  let sentence := (block.map (·.sentence)).getD []
  let required := Comment.isRequired comment
  let (description, value?) ← .aside
    (interpreter.readDefault name (Comment.stripTags comment))
  .edit fun work => { work with default := value?.getD work.default }
  let (description, shape) ← .aside (interpreter.readShape name context description)
  .edit shape.apply
  let (description, example?) := Comment.extractExample description
  .edit fun work => { work with examples := (example?.map ([·])).getD work.examples }
  let description := Comment.removeName name description
  .aside (interpreter.checkDescription name description)
  let description := Comment.joinNonempty [' '] [description, sentence]
  .edit fun work => { work with description }
  let html ← .aside (Run.call (.render description) (interpreter.render description))
  .edit fun work => { work with htmlDescription := Markdown.stripParagraphTags html }
  pure { required, noDerive := shape.noDerive }

def perform (interpreter : Interpreter) (raw : Option Text) (comment : Text) : Work Meta := do
  let info ← interpreter.prepare raw comment
  .commit
  pure info

/-- The finished definition and what the comment says beside it. -/
def interpret (interpreter : Interpreter) (raw : Option Text) (comment : Text)
    (definition : Definition) : Run (Definition × Meta) :=
  let (desk, run) := interpreter.perform raw comment ⟨definition, {}⟩
  ⟨run.outcome.map fun info => (desk.work, info), run.calls⟩

/-- The caller's definition afterwards, and what the comment says beside it. -/
def annotate (interpreter : Interpreter) (raw : Option Text) (comment : Text)
    (definition : Definition) : Definition × Except Error Meta :=
  let (desk, run) := interpreter.perform raw comment ⟨definition, {}⟩
  (desk.caller, run.outcome)

end Interpreter

end CommentSchema
