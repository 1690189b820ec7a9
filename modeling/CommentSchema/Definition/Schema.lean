import CommentSchema.Definition.Field

/-! The schema of a definition: a dictionary under schema keys.  Absent fields are left out,
and so are empty texts and empty lists, at every depth that pruning reaches; what stands
under the key of the default is kept as it is. -/

namespace CommentSchema.Definition

private def keyOf (field : Field) : Value := .str field.key

private def textEntry? (field : Field) (text : Option Text) : List (Value × Value) :=
  match text with
  | some text => [(keyOf field, .str text)]
  | none => []

private def texts (items : List Text) : Value := .list (items.map .str)

mutual
/-- Every field that is there, as a value under its key. -/
def dump (definition : Definition) : List (Value × Value) :=
  match definition with
  | ⟨type, ref, format, nullable, items, additionalProperties, enum, default, oneOf, examples,
      description, htmlDescription⟩ =>
      textEntry? .type type ++ textEntry? .ref ref ++ textEntry? .format format
        ++ (match nullable with
          | some flag => [(keyOf .nullable, .bool flag)]
          | none => [])
        ++ dumpNode? .items items ++ dumpNode? .additionalProperties additionalProperties
        ++ (match enum with
          | some values => [(keyOf .enum, .list values)]
          | none => [])
        ++ (match default with
          | .null => []
          | value => [(keyOf .default, value)])
        ++ [(keyOf .oneOf, .list (dumpEach oneOf)), (keyOf .examples, texts examples),
          (keyOf .description, .str description), (keyOf .htmlDescription, .str htmlDescription)]
termination_by structural definition

def dumpNode? (field : Field) (definition : Option Definition) : List (Value × Value) :=
  match definition with
  | some definition => [(keyOf field, .dict definition.dump)]
  | none => []
termination_by structural definition

def dumpEach (definitions : List Definition) : List Value :=
  match definitions with
  | [] => []
  | definition :: rest => .dict definition.dump :: dumpEach rest
termination_by structural definitions
end

def isDefaultKey : Value → Bool
  | .str text => text == Field.default.key
  | _ => false

mutual
def pruneEntries (entries : List (Value × Value)) : List (Value × Value) :=
  match entries with
  | [] => []
  | (key, value) :: rest =>
      if isDefaultKey key then (key, value) :: pruneEntries rest
      else
        match pruneValue? value with
        | some kept => (key, kept) :: pruneEntries rest
        | none => pruneEntries rest
termination_by structural entries

def pruneValue? (value : Value) : Option Value :=
  match value with
  | .dict entries => some (.dict (pruneEntries entries))
  | .list items =>
      if items.isEmpty then none
      else if items.all Value.isDict then some (.list (pruneEach items))
      else some value
  | .str text => if text.isEmpty then none else some value
  | _ => some value
termination_by structural value

def pruneEach (items : List Value) : List Value :=
  match items with
  | [] => []
  | .dict entries :: rest => .dict (pruneEntries entries) :: pruneEach rest
  | item :: rest => item :: pruneEach rest
termination_by structural items
end

def toSchema (definition : Definition) : Value := .dict (pruneEntries definition.dump)

/-- What the schema of a definition has under the key of a field. -/
def schemaValue? (definition : Definition) (field : Field) : Option Value :=
  match definition.toSchema with
  | .dict entries => Value.lookup? entries (keyOf field)
  | _ => none

private theorem same_keyOf (field other : Field) :
    (keyOf field).same (keyOf other) = decide (field = other) := by
  rw [Bool.eq_iff_iff]
  simp [keyOf, Field.key_eq_iff]

private theorem isDefaultKey_keyOf (field : Field) :
    isDefaultKey (keyOf field) = decide (field = .default) := by
  rw [Bool.eq_iff_iff]
  simp [keyOf, isDefaultKey, Field.key_eq_iff]

/-- The entries of a dictionary under schema keys, for the fields that have a value. -/
def entriesOf (value? : Field → Option Value) (fields : List Field) : List (Value × Value) :=
  fields.filterMap fun field => (value? field).map fun value => (.str field.key, value)

private theorem entriesOf_cons (value? : Field → Option Value) (field : Field)
    (fields : List Field) : entriesOf value? (field :: fields) =
      ((value? field).map fun value => (keyOf field, value)).toList ++ entriesOf value? fields := by
  cases found : value? field <;> simp [entriesOf, keyOf, found]

/-- What stands under the key of a field before pruning. -/
def dumped? (definition : Definition) : Field → Option Value
  | .type => definition.type.map .str
  | .ref => definition.ref.map .str
  | .format => definition.format.map .str
  | .nullable => definition.nullable.map .bool
  | .items => definition.items.map fun node => .dict node.dump
  | .additionalProperties => definition.additionalProperties.map fun node => .dict node.dump
  | .enum => definition.enum.map .list
  | .default => definition.default.present?
  | .oneOf => some (.list (dumpEach definition.oneOf))
  | .examples => some (.list (definition.examples.map .str))
  | .description => some (.str definition.description)
  | .htmlDescription => some (.str definition.htmlDescription)

/-- What stands under the key of a field in the schema. -/
def written? (definition : Definition) (field : Field) : Option Value :=
  (definition.dumped? field).bind fun value =>
    if field = .default then some value else pruneValue? value

theorem dump_eq (definition : Definition) :
    definition.dump = entriesOf definition.dumped? Field.all := by
  obtain ⟨type, ref, format, nullable, items, additionalProperties, enum, default, oneOf, examples,
    description, htmlDescription⟩ := definition
  have text (field : Field) (text : Option Text) : textEntry? field text =
      ((text.map Value.str).map fun value => (keyOf field, value)).toList := by
    cases text <;> rfl
  have node (field : Field) (node : Option Definition) : dumpNode? field node =
      ((node.map fun node => .dict node.dump).map fun value => (keyOf field, value)).toList := by
    cases node <;> rfl
  simp only [dump, Field.all, entriesOf_cons, text, node, dumped?]
  cases nullable <;> cases enum <;> cases default <;> simp [entriesOf, texts, Value.present?]

private theorem pruneEntries_entriesOf (value? : Field → Option Value) (fields : List Field) :
    pruneEntries (entriesOf value? fields) =
      entriesOf (fun field => (value? field).bind fun value =>
        if field = .default then some value else pruneValue? value) fields := by
  induction fields with
  | nil => rfl
  | cons field rest ih =>
      rw [entriesOf_cons, entriesOf_cons, ← ih]
      cases value? field with
      | none => rfl
      | some value =>
          by_cases default : field = .default
          · simp [pruneEntries, isDefaultKey_keyOf, default]
          · cases kept : pruneValue? value <;>
              simp [pruneEntries, isDefaultKey_keyOf, default, kept]

/-- A schema has one entry for each field that is written, in the order of the fields. -/
theorem toSchema_eq (definition : Definition) :
    definition.toSchema = .dict (entriesOf definition.written? Field.all) := by
  rw [toSchema, dump_eq, pruneEntries_entriesOf]
  rfl

private theorem lookup?_entriesOf (value? : Field → Option Value) (fields : List Field)
    (field : Field) : Value.lookup? (entriesOf value? fields) (keyOf field) =
      if field ∈ fields then value? field else none := by
  induction fields with
  | nil => rfl
  | cons first rest ih =>
      rw [entriesOf_cons, Value.lookup?_append, ih]
      by_cases same : field = first
      · subst same
        cases value? field <;> simp [Value.lookup?, same_keyOf]
      · cases value? first <;> simp [Value.lookup?, same_keyOf, same, Ne.symm same]

theorem schemaValue?_eq (definition : Definition) (field : Field) :
    definition.schemaValue? field = definition.written? field := by
  rw [schemaValue?, toSchema_eq]
  dsimp only
  rw [lookup?_entriesOf, if_pos (Field.mem_all field)]

/-- The schema of a definition has its default, unless that is null. -/
theorem schemaValue?_default (definition : Definition) :
    definition.schemaValue? .default = definition.default.present? := by
  rw [schemaValue?_eq]
  simp [written?, dumped?]

end CommentSchema.Definition
