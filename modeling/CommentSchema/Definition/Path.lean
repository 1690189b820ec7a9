import CommentSchema.Definition.Keywords

/-! Changing a definition that lies inside another: the way leads through attributes that
hold a definition or a list of definitions, and through positions in such lists. -/

namespace CommentSchema.Definition

inductive Step where
  | member (name : Text)
  | position (index : Int)

private def positionIn? (length : Nat) (index : Int) : Option Nat :=
  let index := if index < 0 then index + Int.ofNat length else index
  if 0 ≤ index && index < Int.ofNat length then some index.toNat else none

private def inside (node : Option Definition) (change : Definition → Except Error Definition) :
    Except Error (Option Definition) :=
  match node with
  | some node => (change node).map some
  | none => .error .attribute

def changeAt (steps : List Step) (change : Definition → Except Error Definition)
    (definition : Definition) : Except Error Definition :=
  match steps with
  | [] => change definition
  | .position _ :: _ => .error .type
  | .member name :: rest =>
      match Field.ofName? name, rest with
      | some .items, .position _ :: _ => .error .type
      | some .items, rest => do
          let items ← inside definition.items (changeAt rest change)
          .ok { definition with items }
      | some .additionalProperties, .position _ :: _ => .error .type
      | some .additionalProperties, rest => do
          let additionalProperties ← inside definition.additionalProperties (changeAt rest change)
          .ok { definition with additionalProperties }
      | some .oneOf, .position index :: rest =>
          match positionIn? definition.oneOf.length index with
          | none => .error .index
          | some n =>
              match definition.oneOf[n]? with
              | none => .error .index
              | some node => do
                  let node ← changeAt rest change node
                  .ok { definition with oneOf := definition.oneOf.set n node }
      | _, _ => .error .attribute

end CommentSchema.Definition
