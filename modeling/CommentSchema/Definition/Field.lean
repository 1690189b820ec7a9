import CommentSchema.Definition.Basic

/-! The fields of a definition.  Each has the name of the attribute and the key under which
a schema writes it; only some of them differ. -/

namespace CommentSchema

inductive Field where
  | type
  | ref
  | format
  | nullable
  | items
  | additionalProperties
  | enum
  | default
  | oneOf
  | examples
  | description
  | htmlDescription
deriving DecidableEq, Repr

namespace Field

def all : List Field :=
  [type, ref, format, nullable, items, additionalProperties, enum, default, oneOf, examples,
    description, htmlDescription]

def name : Field → Text
  | type => "type".toList
  | ref => "ref".toList
  | format => "format".toList
  | nullable => "nullable".toList
  | items => "items".toList
  | additionalProperties => "additional_properties".toList
  | enum => "enum".toList
  | default => "default".toList
  | oneOf => "one_of".toList
  | examples => "examples".toList
  | description => "description".toList
  | htmlDescription => "html_description".toList

def key : Field → Text
  | ref => "$ref".toList
  | additionalProperties => "additionalProperties".toList
  | oneOf => "oneOf".toList
  | htmlDescription => "htmlDescription".toList
  | field => field.name

def ofName? (text : Text) : Option Field := all.find? (·.name == text)

def ofKey? (text : Text) : Option Field := all.find? (·.key == text)

theorem mem_all (field : Field) : field ∈ all := by cases field <;> decide

theorem ofName?_name (field : Field) : ofName? field.name = some field := by
  cases field <;> decide

theorem ofKey?_key (field : Field) : ofKey? field.key = some field := by
  cases field <;> decide

theorem key_eq_iff {field other : Field} : field.key = other.key ↔ field = other := by
  refine ⟨fun same => ?_, congrArg key⟩
  have found := ofKey?_key field
  rw [same, ofKey?_key] at found
  exact (Option.some.inj found).symm

end Field

end CommentSchema
