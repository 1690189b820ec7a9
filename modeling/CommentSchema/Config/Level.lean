import CommentSchema.Error
import CommentSchema.Text.Case

/-! How grave a message has to be to be shown. -/

namespace CommentSchema.Config

structure Level where
  gravity : Nat
deriving DecidableEq, Repr

namespace Level

def warning : Level := ⟨30⟩

def names : List (Text × Level) :=
  [("CRITICAL", ⟨50⟩), ("FATAL", ⟨50⟩), ("ERROR", ⟨40⟩), ("WARNING", warning), ("WARN", warning),
    ("INFO", ⟨20⟩), ("DEBUG", ⟨10⟩), ("NOTSET", ⟨0⟩)].map fun (name, level) => (name.toList, level)

def ofName (name : Text) : Except Error Level :=
  let name := Text.toUpper name
  match names.lookup name with
  | some level => .ok level
  | none => .error (.value (.unknownLevel name))

def admits (level message : Level) : Bool := level.gravity ≤ message.gravity

end Level

end CommentSchema.Config
