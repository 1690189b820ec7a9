import CommentSchema.Builder
import CommentSchema.Config.Level
import CommentSchema.Config.Merge
import CommentSchema.Json.Reader
import CommentSchema.Literal.Writer
import CommentSchema.Text.Blank

/-! Settings from layers: what is built in, a file for all projects, a file for this one, and
the environment; and the settings that an interpreter is made with. -/

namespace CommentSchema.Config

structure File where
  path : Text
  content : Option (List UInt8)

structure Environment where
  strict : Option Text := none
  logLevel : Option Text := none

structure Surroundings where
  globalFile : File
  projectFile : File
  environment : Environment

def decode? (bytes : List UInt8) : Option Text :=
  (String.fromUTF8? ⟨bytes.toArray⟩).map String.toList

/-- The value in a file; a file that does not exist holds no settings. -/
def File.read (file : File) : Except Error Value :=
  match file.content with
  | none => .ok (.dict [])
  | some bytes =>
      match decode? bytes with
      | none => .error .decoding
      | some text =>
          let text := Text.normalizeLines text
          match Json.read {} text with
          | .ok value => .ok value
          | .error (.malformed fault left) =>
              let (line, column) := Json.lineAndColumn text left
              .error (.value (.invalidFile file.path fault.message line column))
          | .error .tooDeep => .error .depthExceeded
          | .error (.tooManyDigits count) => .error (.value (.tooManyDigits count))

def key (name : String) : Value := .str name.toList

def defaults : List (Value × Value) :=
  [(key "strict", .bool false), (key "definitions_prefix", .str Reference.defaultBase),
    (key "logging", .dict [(key "level", key "INFO")])]

def addLayer (settings : List (Value × Value)) (file : File) :
    Except Error (List (Value × Value)) := do
  merge (.dict settings) (← file.read)

private def trueWords : List Text := ["1", "true", "yes", "on"].map String.toList

def saysYes (text : Text) : Bool := trueWords.contains (Text.toLower (Text.trim text))

def setStrict (environment : Environment) (settings : List (Value × Value)) :
    List (Value × Value) :=
  match environment.strict with
  | some text => Value.insertEntry settings (key "strict") (.bool (saysYes text))
  | none => settings

def setLogLevel (environment : Environment) (settings : List (Value × Value)) :
    Except Error (List (Value × Value)) :=
  match environment.logLevel with
  | none | some [] => .ok settings
  | some level =>
      match (Value.lookup? settings (key "logging")).getD (.dict []) with
      | .dict logging =>
          let logging := Value.insertEntry logging (key "level") (.str level)
          .ok (Value.insertEntry settings (key "logging") (.dict logging))
      | _ => .error .type

def load (surroundings : Surroundings) : Except Error (List (Value × Value)) := do
  let settings ← addLayer defaults surroundings.globalFile
  let settings ← addLayer settings surroundings.projectFile
  setLogLevel surroundings.environment (setStrict surroundings.environment settings)

def levelOf (settings : List (Value × Value)) : Except Error Level :=
  match (Value.lookup? settings (key "logging")).getD (.dict []) with
  | .dict logging =>
      Level.ofName (Literal.display ((Value.lookup? logging (key "level")).getD (key "INFO")))
  | _ => .error .attribute

structure Settings where
  strict : Bool
  base : Value
  level : Level

/-- Given settings are used as they are unless they are empty; then they are loaded. -/
def Settings.make (given : Option Value) (surroundings : Surroundings) : Except Error Settings := do
  let settings ←
    match given with
    | some value =>
        if value.holds then
          match value with
          | .dict entries => .ok entries
          | _ => .error .attribute
        else load surroundings
    | none => load surroundings
  let level ← levelOf settings
  let strict := (Value.lookup? settings (key "strict")).getD (.bool false)
  let base :=
    (Value.lookup? settings (key "definitions_prefix")).getD (.str Reference.defaultBase)
  .ok { strict := strict.holds, base, level }

def Settings.builder (settings : Settings) : Builder := { base := Literal.display settings.base }

end CommentSchema.Config
