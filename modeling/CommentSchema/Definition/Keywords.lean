import CommentSchema.Definition.Field
import CommentSchema.Error

/-! Definitions from keywords.  A field is given by its key or by its name; where both are
given the key counts and the name is one keyword too many.  All that does not fit is
reported at once, each with the way to it. -/

namespace CommentSchema.Definition

/-- A result with everything that was found wrong on the way. -/
abbrev Checked (α : Type) := α × List Issue

private def issue (fault : String) : Issue := ⟨[], fault.toList⟩

private def under (step : Text) (issues : List Issue) : List Issue :=
  issues.map fun issue => { issue with location := step :: issue.location }

private def checkText? : Value → Checked (Option Text)
  | .null => (none, [])
  | .str text => (some text, [])
  | _ => (none, [issue "string_type"])

private def checkText : Value → Checked Text
  | .str text => (text, [])
  | _ => ([], [issue "string_type"])

private def trueWords : List Text := ["1", "on", "t", "true", "y", "yes"].map String.toList

private def falseWords : List Text := ["0", "off", "f", "false", "n", "no"].map String.toList

/-- Truth values, the numbers zero and one, and a few words in any case. -/
private def checkFlag? : Value → Checked (Option Bool)
  | .null => (none, [])
  | .bool flag => (some flag, [])
  | .int 0 => (some false, [])
  | .int 1 => (some true, [])
  | .int _ => (none, [issue "bool_parsing"])
  | .str text =>
      let lower := text.map Char.toLower
      if trueWords.contains lower then (some true, [])
      else if falseWords.contains lower then (some false, [])
      else (none, [issue "bool_parsing"])
  | _ => (none, [issue "bool_type"])

private def checkValues? : Value → Checked (Option (List Value))
  | .null => (none, [])
  | .list items => (some items, [])
  | _ => (none, [issue "list_type"])

private def checkTextsFrom : Nat → List Value → Checked (List Text)
  | _, [] => ([], [])
  | n, item :: rest =>
      let (text, issues) := checkText item
      let (texts, others) := checkTextsFrom (n + 1) rest
      (text :: texts, under (Text.ofNat n) issues ++ others)

private def checkTexts : Value → Checked (List Text)
  | .list items => checkTextsFrom 0 items
  | _ => ([], [issue "list_type"])

def fieldOf? (given : List Text) (keyword : Text) : Option Field :=
  match Field.ofKey? keyword with
  | some field => some field
  | none =>
      match Field.ofName? keyword with
      | some field => if given.contains field.key then none else some field
      | none => none

private def keywordsOf (entries : List (Value × Value)) : List Text :=
  entries.filterMap fun (key, _) =>
    match key with
    | .str text => some text
    | _ => none

mutual
def checkNode (value : Value) : Checked Definition :=
  match value with
  | .dict entries => checkEntries (keywordsOf entries) entries
  | _ => ({}, [issue "model_type"])
termination_by structural value

def checkEntries (given : List Text) (entries : List (Value × Value)) : Checked Definition :=
  match entries with
  | [] => ({}, [])
  | (.str keyword, value) :: rest =>
      let (definition, others) := checkEntries given rest
      match fieldOf? given keyword with
      | some field =>
          let (definition, issues) := checkField field value definition
          (definition, under keyword issues ++ others)
      | none => (definition, under keyword [issue "extra_forbidden"] ++ others)
  | _ :: rest => checkEntries given rest
termination_by structural entries

def checkField (field : Field) (value : Value) (definition : Definition) : Checked Definition :=
  match field with
  | .type =>
      let (type, issues) := checkText? value
      ({ definition with type }, issues)
  | .ref =>
      let (ref, issues) := checkText? value
      ({ definition with ref }, issues)
  | .format =>
      let (format, issues) := checkText? value
      ({ definition with format }, issues)
  | .nullable =>
      let (nullable, issues) := checkFlag? value
      ({ definition with nullable }, issues)
  | .items =>
      match value with
      | .null => ({ definition with items := none }, [])
      | .dict entries =>
          let (node, issues) := checkEntries (keywordsOf entries) entries
          ({ definition with items := some node }, issues)
      | _ => (definition, [issue "model_type"])
  | .additionalProperties =>
      match value with
      | .null => ({ definition with additionalProperties := none }, [])
      | .dict entries =>
          let (node, issues) := checkEntries (keywordsOf entries) entries
          ({ definition with additionalProperties := some node }, issues)
      | _ => (definition, [issue "model_type"])
  | .enum =>
      let (enum, issues) := checkValues? value
      ({ definition with enum }, issues)
  | .default => ({ definition with default := value }, [])
  | .oneOf =>
      match value with
      | .list nodes =>
          let (oneOf, issues) := checkNodesFrom 0 nodes
          ({ definition with oneOf }, issues)
      | _ => (definition, [issue "list_type"])
  | .examples =>
      let (examples, issues) := checkTexts value
      ({ definition with examples }, issues)
  | .description =>
      let (description, issues) := checkText value
      ({ definition with description }, issues)
  | .htmlDescription =>
      let (htmlDescription, issues) := checkText value
      ({ definition with htmlDescription }, issues)
termination_by structural value

def checkNodesFrom (n : Nat) (nodes : List Value) : Checked (List Definition) :=
  match nodes with
  | [] => ([], [])
  | node :: rest =>
      let (definition, issues) := checkNode node
      let (definitions, others) := checkNodesFrom (n + 1) rest
      (definition :: definitions, under (Text.ofNat n) issues ++ others)
termination_by structural nodes
end

private def accepted : Checked Definition → Except Error Definition
  | (definition, []) => .ok definition
  | (_, issues) => .error (.invalid issues)

def ofKeywords (keywords : Value) : Except Error Definition := accepted (checkNode keywords)

def set (definition : Definition) (attr : Text) (value : Value) : Except Error Definition :=
  match Field.ofName? attr with
  | some field =>
      let (changed, issues) := checkField field value definition
      accepted (changed, under attr issues)
  | none => .error (.invalid [⟨[attr], "no_such_attribute".toList⟩])

private theorem checkTextsFrom_str (n : Nat) (texts : List Text) :
    checkTextsFrom n (texts.map .str) = (texts, []) := by
  induction texts generalizing n with
  | nil => rfl
  | cons text rest ih =>
      simp only [List.map_cons, checkTextsFrom, checkText, ih]
      rfl

theorem checkField_examples (texts : List Text) (definition : Definition) :
    checkField .examples (.list (texts.map .str)) definition =
      ({ definition with examples := texts }, []) := by
  simp only [checkField, checkTexts, checkTextsFrom_str]

/-- A value without issues is assigned. -/
theorem set_of_checkField {field : Field} {value : Value} {definition changed : Definition}
    (fits : checkField field value definition = (changed, [])) :
    definition.set field.name value = .ok changed := by
  simp only [set, Field.ofName?_name, fits]
  rfl

end CommentSchema.Definition
