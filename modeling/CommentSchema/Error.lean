import CommentSchema.Text.Quoted

/-! Everything that can go wrong, by cause, and the wording of each cause.  A problem with
the content of a comment concerns one field only; all else ends the run. -/

namespace CommentSchema

inductive Category where
  | comment
  | malformed
  | literal
  | typeExpression
  | enumeration
deriving DecidableEq, Repr

inductive Problem where
  | nameNotFirst (name : Text)
  | descriptionMissing (name : Text)
  | descriptionUnended (name : Text)
  | literalUnreadable (text : Text)
  | defaultUnreadable (text name reason : Text)
  | typeEmpty
  | typeMalformed (text complaint : Text)
  | typeTooDeep (text : Text)
  | typeUnsupported (text : Text)
  | genericUnsupported (text : Text)
  | mappingArity (text : Text)
  | nodeTooDeep (name : Text)
  | clauseUnreadable (clause text name reason : Text)
  | clauseTooDeep (clause text name : Text)
  | bulletMalformed (bullet : Text)
  | blockEmpty (header : Text)
  | reported (category : Category) (message : Text)
deriving DecidableEq, Repr

namespace Problem

def category : Problem → Category
  | nameNotFirst _ | descriptionMissing _ | descriptionUnended _ => .malformed
  | literalUnreadable _ | defaultUnreadable .. => .literal
  | typeEmpty | typeMalformed .. | typeTooDeep _ | typeUnsupported _ | genericUnsupported _
  | mappingArity _ | nodeTooDeep _ | clauseUnreadable .. | clauseTooDeep .. => .typeExpression
  | bulletMalformed _ | blockEmpty _ => .enumeration
  | reported category _ => category

private def onField (before name : Text) : Text := before ++ " on field ".toList ++ name

def message : Problem → Text
  | nameNotFirst name => onField "comment should start with field name".toList name
  | descriptionMissing name => onField "no description".toList name
  | descriptionUnended name => onField "description should end with a dot".toList name
  | literalUnreadable text => "Invalid literal ".toList ++ text.quote
  | defaultUnreadable text name reason =>
      onField ("couldn't parse default value from ".toList ++ text) name ++ ": ".toList ++ reason
  | typeEmpty => "Empty type expression".toList
  | typeMalformed text complaint =>
      "Invalid type expression ".toList ++ text.quote ++ ':' :: ' ' :: complaint
  | typeTooDeep text => "Type expression ".toList ++ text.quote ++ " is nested too deeply".toList
  | typeUnsupported text => "Unsupported type expression ".toList ++ text.quote
  | genericUnsupported text => "Unsupported generic type ".toList ++ text.quote
  | mappingArity text =>
      "Mapping type ".toList ++ text.quote ++ " needs exactly two parameters".toList
  | nodeTooDeep name => onField "Type expression nested too deeply".toList name
  | clauseUnreadable clause text name reason =>
      onField ("couldn't parse ".toList ++ clause ++ ' ' :: text) name ++ ": ".toList ++ reason
  | clauseTooDeep clause text name =>
      onField ("couldn't build ".toList ++ clause ++ ' ' :: text) name
        ++ ": nested too deeply".toList
  | bulletMalformed bullet => "Malformed enum value line ".toList ++ bullet.quote
  | blockEmpty header => "Enum block ".toList ++ header.quote ++ " lists no values".toList
  | reported _ message => message

end Problem

structure CommentError where
  problem : Problem
  field : Text := []
  text : Option Text := none
deriving DecidableEq, Repr

namespace CommentError

def onField (error : CommentError) (name : Text) : CommentError :=
  if error.field.isEmpty then { error with field := name } else error

def message (error : CommentError) : Text := error.problem.message

@[simp] theorem onField_problem (error : CommentError) (name : Text) :
    (error.onField name).problem = error.problem := by
  unfold onField
  split <;> rfl

@[simp] theorem onField_text (error : CommentError) (name : Text) :
    (error.onField name).text = error.text := by
  unfold onField
  split <;> rfl

end CommentError

/-- A value that is out of the range of what it is used for. -/
inductive ValueProblem where
  | nullCharacter
  | unencodable (points : List CodePoint)
  | tooManyDigits (count : Nat)
  | unwritableNumber
  | unwritableField
  | unknownLevel (level : Text)
  | pairLength (index length : Nat)
  | invalidFile (path fault : Text) (line column : Nat)
  | reported (message : Text)
deriving DecidableEq, Repr

namespace ValueProblem

private def limitMessage : Text :=
  "Exceeds the limit (4300 digits) for integer string conversion".toList

private def limitHint : Text := "; use sys.set_int_max_str_digits() to increase the limit".toList

/-- Names the first halves that stand alone. -/
private def unencodableMessage (points : List CodePoint) : Text :=
  let isChar (point : CodePoint) := point.char?.isSome
  let position := (points.takeWhile isChar).length
  let place :=
    match (points.drop position).takeWhile fun point => !isChar point with
    | [half] =>
        "character '".toList ++ Text.escapeCode half.toNat ++ "' in position ".toList
          ++ Text.ofNat position
    | halves =>
        "characters in position ".toList ++ Text.ofNat position ++ '-' ::
          Text.ofNat (position + halves.length - 1)
  "'utf-8' codec can't encode ".toList ++ place ++ ": surrogates not allowed".toList

def message : ValueProblem → Text
  | nullCharacter => "source code string cannot contain null bytes".toList
  | unencodable points => unencodableMessage points
  | tooManyDigits count =>
      limitMessage ++ ": value has ".toList ++ Text.ofNat count ++ " digits".toList ++ limitHint
  | unwritableNumber => limitMessage ++ limitHint
  | unwritableField => "Unable to avoid backslash in f-string expression part".toList
  | unknownLevel level => "Unknown level: ".toList ++ level.quote
  | pairLength index length =>
      "dictionary update sequence element #".toList ++ Text.ofNat index ++ " has length ".toList
        ++ Text.ofNat length ++ "; 2 is required".toList
  | invalidFile path fault line column =>
      "Invalid JSON in ".toList ++ path.quote ++ ": ".toList ++ fault ++ " (line ".toList
        ++ Text.ofNat line ++ ", col ".toList ++ Text.ofNat column ++ ")".toList
  | reported message => message

end ValueProblem

/-- A keyword or value that does not fit a definition, and the way to it. -/
structure Issue where
  location : List Text
  fault : Text
deriving DecidableEq, Repr

inductive Error where
  | comment (error : CommentError)
  | value (problem : ValueProblem)
  | oneOfWithoutEntries (description : Text)
  | payloadCount (count : Nat)
  | inconsistent (message : Text)
  | runtime (message : Text)
  | tooDeep (message : Text)
  | misspelled (message : Text)
  | invalid (issues : List Issue)
  | index
  | attribute
  | type
  | overflow
  | decoding
  | key
deriving DecidableEq, Repr

namespace Error

def message : Error → Text
  | comment error => error.message
  | value problem => problem.message
  | oneOfWithoutEntries description =>
      "oneOf clause matched without entries in ".toList ++ description.quote
  | payloadCount count =>
      "ONE_OF_ENTRY must capture exactly one group, got ".toList ++ Text.ofNat count
  | inconsistent message | runtime message | tooDeep message | misspelled message => message
  | _ => []

def depthExceeded : Error := tooDeep "maximum recursion depth exceeded".toList

def isUnfitValue : Error → Bool
  | comment _ | value _ | invalid _ | decoding => true
  | _ => false

def isTooDeep : Error → Bool
  | tooDeep _ => true
  | _ => false

def isMisspelled : Error → Bool
  | misspelled _ => true
  | _ => false

def onField (error : Error) (name : Text) : Error :=
  match error with
  | comment error => comment (error.onField name)
  | error => error

theorem ok_bind (value : α) (next : α → Except ε β) : (.ok value >>= next) = next value := rfl

theorem bind_eq_ok {outcome : Except ε α} {next : α → Except ε β} {value : β} :
    outcome >>= next = .ok value ↔ ∃ found, outcome = .ok found ∧ next found = .ok value := by
  cases outcome with
  | ok found =>
      constructor
      · exact fun success => ⟨found, rfl, success⟩
      · intro success
        obtain ⟨found, same, success⟩ := success
        cases same
        exact success
  | error error =>
      constructor
      · exact fun success => nomatch success
      · intro success
        obtain ⟨found, same, -⟩ := success
        cases same

theorem map_eq_ok {outcome : Except ε α} {change : α → β} {value : β} :
    outcome.map change = .ok value ↔ ∃ found, outcome = .ok found ∧ change found = value := by
  cases outcome with
  | ok found =>
      constructor
      · intro same
        exact ⟨found, rfl, Except.ok.inj same⟩
      · intro success
        obtain ⟨_, same, rfl⟩ := success
        cases same
        rfl
  | error error =>
      constructor
      · intro same
        cases same
      · intro success
        obtain ⟨_, same, -⟩ := success
        cases same

theorem bind_eq_error {outcome : Except ε α} {next : α → Except ε β} {error : ε} :
    outcome >>= next = .error error ↔
      outcome = .error error ∨ ∃ found, outcome = .ok found ∧ next found = .error error := by
  cases outcome with
  | ok found => simp [ok_bind]
  | error other => simp [bind, Except.bind]

theorem map_eq_error {outcome : Except ε α} {change : α → β} {error : ε} :
    outcome.map change = .error error ↔ outcome = .error error := by
  cases outcome with
  | ok found => simp [Except.map]
  | error other => simp [Except.map]

theorem map_ok (value : α) (change : α → β) :
    (.ok value : Except ε α).map change = .ok (change value) := rfl

theorem map_bind {outcome : Except ε α} {next : α → Except ε β} {change : β → γ} :
    (outcome >>= next).map change = outcome >>= fun value => (next value).map change := by
  cases outcome with
  | ok value => rfl
  | error error => rfl

theorem bind_map {outcome : Except ε α} {change : α → β} {next : β → Except ε γ} :
    (outcome.map change >>= next) = outcome >>= fun value => next (change value) := by
  cases outcome with
  | ok value => rfl
  | error error => rfl

theorem mapError_eq_ok {outcome : Except ε α} {change : ε → ε'} {value : α} :
    outcome.mapError change = .ok value ↔ outcome = .ok value := by
  cases outcome with
  | ok found =>
      constructor
      · intro same
        cases same
        rfl
      · intro same
        cases same
        rfl
  | error error =>
      constructor
      · intro same
        cases same
      · intro same
        cases same

end Error

end CommentSchema
