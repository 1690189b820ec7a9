import CommentSchema.Value

/-! Schema definitions: what is known about one field.  A null default is no default. -/

namespace CommentSchema

structure Definition where
  type : Option Text := none
  ref : Option Text := none
  format : Option Text := none
  nullable : Option Bool := none
  items : Option Definition := none
  additionalProperties : Option Definition := none
  enum : Option (List Value) := none
  default : Value := .null
  oneOf : List Definition := []
  examples : List Text := []
  description : Text := []
  htmlDescription : Text := []
deriving Inhabited

/-- What a comment says about its field beside the definition. -/
structure Meta where
  required : Bool := false
  noDerive : Bool := false
deriving DecidableEq, Repr

namespace Definition

private def sameValues (xs ys : List Value) : Bool := (Value.list xs).same (.list ys)

mutual
/-- Equality of meaning at every depth. -/
def same : Definition → Definition → Bool
  | ⟨type, ref, format, nullable, items, additionalProperties, enum, default, oneOf, examples,
      description, htmlDescription⟩, other =>
      type == other.type && ref == other.ref && format == other.format
        && nullable == other.nullable && sameOption items other.items
        && sameOption additionalProperties other.additionalProperties
        && (match enum, other.enum with
          | none, none => true
          | some xs, some ys => sameValues xs ys
          | _, _ => false)
        && default.same other.default && sameEach oneOf other.oneOf
        && examples == other.examples && description == other.description
        && htmlDescription == other.htmlDescription
termination_by structural definition => definition

def sameOption : Option Definition → Option Definition → Bool
  | none, none => true
  | some definition, some other => definition.same other
  | _, _ => false
termination_by structural definition => definition

def sameEach : List Definition → List Definition → Bool
  | [], [] => true
  | definition :: rest, other :: others => definition.same other && sameEach rest others
  | _, _ => false
termination_by structural definitions => definitions
end

/-- Something holds of a definition and of all definitions inside it, at every depth. -/
inductive Everywhere (holds : Definition → Prop) : Definition → Prop where
  | intro {definition : Definition} (here : holds definition)
      (items : ∀ inner ∈ definition.items, Everywhere holds inner)
      (additionalProperties : ∀ inner ∈ definition.additionalProperties, Everywhere holds inner)
      (oneOf : ∀ inner ∈ definition.oneOf, Everywhere holds inner) : Everywhere holds definition

theorem Everywhere.mono {holds holds' : Definition → Prop} {definition : Definition}
    (weaker : ∀ inner, holds inner → holds' inner) (everywhere : Everywhere holds definition) :
    Everywhere holds' definition := by
  induction everywhere with
  | intro here _ _ _ inItems inProperties inOneOf =>
      exact .intro (weaker _ here) inItems inProperties inOneOf

/-- A definition with nothing inside it. -/
theorem Everywhere.leaf {holds : Definition → Prop} {definition : Definition}
    (here : holds definition) (items : definition.items = none)
    (additionalProperties : definition.additionalProperties = none)
    (oneOf : definition.oneOf = []) : Everywhere holds definition := by
  refine .intro here ?_ ?_ ?_
  · simp [items]
  · simp [additionalProperties]
  · simp [oneOf]

end Definition

end CommentSchema
