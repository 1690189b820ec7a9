import CommentSchema.Proofs.Union

/-! Which unions put no restriction on a value.  A union of several types other than null lists
them, and a union of one of them is as open as that type; without any there is nothing left to
list. -/

namespace CommentSchema

/-- No type, no reference and no alternatives say what a value has to be. -/
def Definition.IsOpen (definition : Definition) : Prop :=
  definition.type = none ∧ definition.ref = none ∧ definition.oneOf = []

namespace Builder

theorem isOpen_withNull {nullable : Bool} {definition : Definition} :
    (withNull nullable definition).IsOpen ↔ definition.IsOpen := by
  cases nullable with
  | true => rfl
  | false => rfl

theorem isOpen_alternatives {nodes : List Definition} :
    (alternatives nodes).IsOpen ↔ nodes = [] ∨ ∃ sole, nodes = [sole] ∧ sole.IsOpen := by
  match nodes with
  | [] => simp [alternatives, Definition.IsOpen]
  | [sole] => simp [alternatives]
  | _ :: _ :: _ => simp [alternatives, Definition.IsOpen]

section

variable {builder : Builder} {field context : Text} {inline : Bool}
  {quoted : Text → Except Error Definition}

/-- A union is open where it has no type other than null, or a single one which is open. -/
theorem isOpen_of_united {members : List Expr} {definition : Definition}
    (built : united (members.map (builder.argument field context inline quoted)) =
      .ok definition) :
    definition.IsOpen ↔ members.filter (!isNull ·) = [] ∨
      ∃ sole node, members.filter (!isNull ·) = [sole] ∧
        builder.node field context inline quoted sole = .ok node ∧ node.IsOpen := by
  obtain ⟨⟨nodes, nullable⟩, found, rfl⟩ := Error.map_eq_ok.mp built
  have each := forall₂_of_argumentMembers found
  rw [isOpen_withNull, isOpen_alternatives]
  generalize members.filter (!isNull ·) = visible at each
  cases each with
  | nil => simp
  | cons first rest =>
      cases rest with
      | nil => simp [first]
      | cons second rest => simp

end

variable {builder : Builder} {field context : Text} {inline : Bool}

theorem build_isOpen_iff [Dialect] {expr : Expr} {members : List Expr} {definition : Definition}
    (unites : Unites expr members)
    (built : builder.build field expr context inline = .ok definition) :
    definition.IsOpen ↔ (∀ member ∈ members, isNull member = true) ∨
      ∃ sole node, members.filter (!isNull ·) = [sole] ∧
        builder.build field sole context inline = .ok node ∧ node.IsOpen := by
  rw [isOpen_of_united (united_of_node unites (build_eq_ok.mp built)), List.filter_eq_nil_iff]
  simp only [build_eq_ok, Bool.not_eq_true', Bool.not_eq_false]

/-- A union that is built is open where all its members are null, or where a single one is not
and is open itself.  So where a union has a member other than null, and just there, it is open
only if such a member is.  An optional type is open only if its argument is, and the optional
null constant has the type of null. -/
theorem build_open_union [Dialect] (builder : Builder) (field context : Text) (inline : Bool) :
    let built (expr : Expr) := builder.build field expr context inline
    (∀ expr members definition, Unites expr members → built expr = .ok definition →
      (definition.IsOpen ↔ (∀ member ∈ members, isNull member = true) ∨
        ∃ sole node, members.filter (!isNull ·) = [sole] ∧ built sole = .ok node ∧
          node.IsOpen) ∧
      ((definition.IsOpen → ∃ member ∈ members, isNull member = false ∧
          ∃ node, built member = .ok node ∧ node.IsOpen) ↔
        ∃ member ∈ members, isNull member = false)) ∧
    ∀ base index definition, generic? base = .ok (some .optional) →
      built (.subscript base index) = .ok definition →
      ∃ first others node, index.argumentsOf = first :: others ∧ built first = .ok node ∧
        (definition.IsOpen → isNull first = false ∧ node.IsOpen) ∧
        (isNull first = true → definition.type = some "null".toList) := by
  intro built
  refine ⟨?_, ?_⟩
  · intro expr members definition unites accepted
    have isOpen := build_isOpen_iff unites accepted
    refine ⟨isOpen, ?_, ?_⟩
    · intro inherits
      by_contra allNull
      push Not at allNull
      obtain ⟨member, present, visible, -⟩ :=
        inherits (isOpen.mpr (.inl fun member present => by simpa using allNull member present))
      exact allNull member present visible
    · rintro ⟨other, present, visible⟩ openUnion
      rcases isOpen.mp openUnion with allNull | ⟨sole, node, alone, hasNode, openNode⟩
      · exact absurd (allNull other present) (by simp [visible])
      · have member : sole ∈ members.filter (!isNull ·) := by simp [alone]
        rw [List.mem_filter] at member
        exact ⟨sole, member.1, by simpa using member.2, node, hasNode, openNode⟩
  · intro base index definition optional accepted
    obtain ⟨first, others, node, split, hasNode, rfl⟩ :=
      node_optional_eq_ok optional (build_eq_ok.mp accepted)
    have null (isNull : isNull first = true) : node.type = some "null".toList := by
      rw [eq_null_of_isNull isNull, node_null] at hasNode
      cases hasNode
      rfl
    refine ⟨first, others, node, split, build_eq_ok.mpr hasNode, fun openNode => ?_, null⟩
    rw [isOpen_withNull] at openNode
    refine ⟨?_, openNode⟩
    by_contra isNull
    exact nomatch openNode.1.symm.trans (null (by simpa using isNull))

/-- `Union[None, typing.Any]` is as open as what it has beside null, and so is
`Optional[object]`. -/
theorem build_open_union_anyOrNull :
    let built (expr : Expr) := ({} : Builder).build "field".toList expr [] false
    let null := Expr.constant .none
    let any := Expr.attribute (.name "typing".toList) "Any".toList
    let object := Expr.name "object".toList
    let union := Expr.subscript (.name "Union".toList) (.tuple [null, any])
    let optional := Expr.name "Optional".toList
    let definition : Definition := { nullable := some true }
    Unites union [null, any] ∧ built union = .ok definition ∧
      (definition.IsOpen ↔ (∀ member ∈ [null, any], isNull member = true) ∨
        ∃ sole node, [null, any].filter (!isNull ·) = [sole] ∧ built sole = .ok node ∧
          node.IsOpen) ∧
      generic? optional = .ok (some .optional) ∧
      built (.subscript optional object) = .ok definition ∧
      ∃ first others node, object.argumentsOf = first :: others ∧ built first = .ok node ∧
        (definition.IsOpen → isNull first = false ∧ node.IsOpen) ∧
        (isNull first = true → definition.type = some "null".toList) := by
  intro built null any object union optional definition
  have unites : Unites union [null, any] := .listed (.tuple [null, any]) rfl
  have openUnion := build_open_union {} "field".toList [] false
  exact ⟨unites, rfl, (openUnion.1 union [null, any] definition unites rfl).1, rfl, rfl,
    openUnion.2 optional object definition rfl rfl⟩

/-- A union of nothing but null restricts nothing, though an optional null constant has the type
of null. -/
theorem build_nullUnion :
    let built (expr : Expr) := ({} : Builder).build "field".toList expr [] false
    let null := Expr.constant .none
    let chain := Expr.binary .bitOr null null
    let listed := Expr.subscript (.name "Union".toList) null
    let empty := Expr.subscript (.name "Union".toList) (.tuple [])
    let nullable : Definition := { nullable := some true }
    Unites chain [null, null] ∧ built chain = .ok nullable ∧ nullable.IsOpen ∧
      Unites listed [null] ∧ built listed = .ok nullable ∧
      Unites empty [] ∧ built empty = .ok {} ∧ ({} : Definition).IsOpen ∧
      built null = .ok { type := some "null".toList } ∧
      built (.subscript (.name "Optional".toList) null) =
        .ok { type := some "null".toList, nullable := some true } := by
  exact ⟨.chain rfl, rfl, ⟨rfl, rfl, rfl⟩, .listed _ rfl, rfl, .listed _ rfl, rfl,
    ⟨rfl, rfl, rfl⟩, rfl, rfl⟩

end Builder

end CommentSchema
