import CommentSchema.Definition.Keywords

/-! Taking over a definition field by field.  Whatever is assigned to a field is checked as a
keyword is, and definitions that are already there are taken as they are.  The first value
that does not fit stops the work, and what was taken over before stays. -/

namespace CommentSchema.Definition

private def textValue? : Option Text → Value
  | some text => .str text
  | none => .null

private def flagValue? : Option Bool → Value
  | some flag => .bool flag
  | none => .null

private def listValue? : Option (List Value) → Value
  | some items => .list items
  | none => .null

def takeField (other : Definition) (field : Field) (definition : Definition) :
    Except Error Definition :=
  let assign (value : Value) := definition.set field.name value
  match field with
  | .type => assign (textValue? other.type)
  | .ref => assign (textValue? other.ref)
  | .format => assign (textValue? other.format)
  | .nullable => assign (flagValue? other.nullable)
  | .items => .ok { definition with items := other.items }
  | .additionalProperties =>
      .ok { definition with additionalProperties := other.additionalProperties }
  | .enum => assign (listValue? other.enum)
  | .default => assign other.default
  | .oneOf => .ok { definition with oneOf := other.oneOf }
  | .examples => assign (.list (other.examples.map .str))
  | .description => assign (.str other.description)
  | .htmlDescription => assign (.str other.htmlDescription)

/-- The definition after some fields were taken over, and the error that stopped it. -/
def takeFields (other : Definition) : List Field → Definition → Definition × Except Error Unit
  | [], definition => (definition, .ok ())
  | field :: rest, definition =>
      match takeField other field definition with
      | .ok changed => takeFields other rest changed
      | .error error => (definition, .error error)

def adopt (definition other : Definition) : Definition × Except Error Unit :=
  takeFields other Field.all definition

def AgreeOn (field : Field) (definition other : Definition) : Prop :=
  match field with
  | .type => definition.type = other.type
  | .ref => definition.ref = other.ref
  | .format => definition.format = other.format
  | .nullable => definition.nullable = other.nullable
  | .items => definition.items = other.items
  | .additionalProperties => definition.additionalProperties = other.additionalProperties
  | .enum => definition.enum = other.enum
  | .default => definition.default = other.default
  | .oneOf => definition.oneOf = other.oneOf
  | .examples => definition.examples = other.examples
  | .description => definition.description = other.description
  | .htmlDescription => definition.htmlDescription = other.htmlDescription

theorem AgreeOn.refl (field : Field) (definition : Definition) :
    AgreeOn field definition definition := by
  cases field <;> rfl

theorem AgreeOn.trans {field : Field} {first second third : Definition}
    (left : AgreeOn field first second) (right : AgreeOn field second third) :
    AgreeOn field first third := by
  cases field <;> exact Eq.trans left right

theorem eq_of_agreeOn {definition other : Definition}
    (agree : ∀ field, AgreeOn field definition other) : definition = other := by
  cases definition
  cases other
  simp only [Definition.mk.injEq]
  exact ⟨agree .type, agree .ref, agree .format, agree .nullable, agree .items,
    agree .additionalProperties, agree .enum, agree .default, agree .oneOf, agree .examples,
    agree .description, agree .htmlDescription⟩

def withField (other : Definition) (field : Field) (definition : Definition) : Definition :=
  match field with
  | .type => { definition with type := other.type }
  | .ref => { definition with ref := other.ref }
  | .format => { definition with format := other.format }
  | .nullable => { definition with nullable := other.nullable }
  | .items => { definition with items := other.items }
  | .additionalProperties =>
      { definition with additionalProperties := other.additionalProperties }
  | .enum => { definition with enum := other.enum }
  | .default => { definition with default := other.default }
  | .oneOf => { definition with oneOf := other.oneOf }
  | .examples => { definition with examples := other.examples }
  | .description => { definition with description := other.description }
  | .htmlDescription => { definition with htmlDescription := other.htmlDescription }

theorem agreeOn_withField (other : Definition) (field : Field) (definition : Definition) :
    AgreeOn field (withField other field definition) other := by
  cases field <;> rfl

theorem agreeOn_withField_of_ne (other : Definition) {field untouched : Field}
    (different : untouched ≠ field) (definition : Definition) :
    AgreeOn untouched (withField other field definition) definition := by
  cases field <;> cases untouched <;> first | rfl | exact absurd rfl different

/-- What a field of a definition holds always fits that field. -/
theorem takeField_eq (other : Definition) (field : Field) (definition : Definition) :
    takeField other field definition = .ok (withField other field definition) := by
  cases field with
  | items | additionalProperties | oneOf => rfl
  | type =>
      simp only [takeField, withField]
      cases other.type <;> exact set_of_checkField rfl
  | ref =>
      simp only [takeField, withField]
      cases other.ref <;> exact set_of_checkField rfl
  | format =>
      simp only [takeField, withField]
      cases other.format <;> exact set_of_checkField rfl
  | nullable =>
      simp only [takeField, withField]
      cases other.nullable <;> exact set_of_checkField rfl
  | enum =>
      simp only [takeField, withField]
      cases other.enum <;> exact set_of_checkField rfl
  | default =>
      have fits : checkField .default other.default definition =
          ({ definition with default := other.default }, []) := by
        simp only [checkField]
      exact set_of_checkField fits
  | examples => exact set_of_checkField (checkField_examples other.examples definition)
  | description | htmlDescription =>
      simp only [takeField, withField]
      exact set_of_checkField rfl

/-- The fields that were taken over agree with the other definition and the fields that were
not are as they were; nothing stops on the way. -/
theorem takeFields_agree (other : Definition) (fields : List Field) (definition : Definition) :
    (takeFields other fields definition).2 = .ok () ∧
      ∀ field, AgreeOn field (takeFields other fields definition).1
        (if field ∈ fields then other else definition) := by
  induction fields generalizing definition with
  | nil => exact ⟨rfl, fun field => AgreeOn.refl field definition⟩
  | cons first rest ih =>
      obtain ⟨finished, agree⟩ := ih (withField other first definition)
      simp only [takeFields, takeField_eq]
      refine ⟨finished, fun field => ?_⟩
      by_cases member : field ∈ rest
      · simpa [member] using agree field
      · have kept := agree field
        simp only [member, if_false] at kept
        by_cases same : field = first
        · subst same
          simpa using kept.trans (agreeOn_withField other field definition)
        · simpa [same, member] using kept.trans (agreeOn_withField_of_ne other same definition)

/-- Taking over every field succeeds and leaves no old value behind. -/
theorem adopt_eq (definition other : Definition) : definition.adopt other = (other, .ok ()) := by
  obtain ⟨finished, agree⟩ := takeFields_agree other Field.all definition
  refine Prod.ext (eq_of_agreeOn fun field => ?_) finished
  simpa only [adopt, Field.mem_all, if_true] using agree field

end CommentSchema.Definition
