import CommentSchema.Config.Settings
import CommentSchema.Interpreter

/-! Interpreters made from settings.  A part that is given by its name takes the place of the one
that comes from the settings or that every interpreter has. -/

namespace CommentSchema.Config

structure Overrides where
  strict : Option Bool := none
  resolveReference : Option (Option Text → Except Error (Text × Text)) := none
  enumPass :
    Option (Text → Definition → Text → Except Error (Definition × Option Comment.EnumBlock)) := none
  parseType : Option (Text → Except Error Expr) := none
  buildNode : Option (Text → Expr → Text → Bool → Except Error Definition) := none
  parseLiteral : Option (Text → Except Error Value) := none
  render : Option (Text → Except Error Text) := none
  /-- Names that no part has. -/
  unknown : List Text := []

def Overrides.apply (overrides : Overrides) (interpreter : Interpreter) :
    Except Error Interpreter :=
  if overrides.unknown.isEmpty then
    .ok {
      strict := overrides.strict.getD interpreter.strict
      resolveReference := overrides.resolveReference.getD interpreter.resolveReference
      enumPass := overrides.enumPass.getD interpreter.enumPass
      parseType := overrides.parseType.getD interpreter.parseType
      buildNode := overrides.buildNode.getD interpreter.buildNode
      parseLiteral := overrides.parseLiteral.getD interpreter.parseLiteral
      render := overrides.render.getD interpreter.render }
  else .error .type

variable [Dialect]

def Settings.interpreter (settings : Settings) : Interpreter :=
  .standard settings.builder settings.strict

/-- An interpreter, and how grave a message has to be to be shown. -/
def make (given : Option Value) (overrides : Overrides) (surroundings : Surroundings) :
    Except Error (Interpreter × Level) := do
  let settings ← Settings.make given surroundings
  let interpreter ← overrides.apply settings.interpreter
  .ok (interpreter, settings.level)

end CommentSchema.Config
