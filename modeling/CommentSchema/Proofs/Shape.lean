import CommentSchema.Proofs.Members

/-! The shape of the definitions that the builder makes.  Each of them, at every depth, is a
schema type, a reference, a list of at least two alternatives or no restriction at all; what
else it has depends on that, and nothing that only a comment states is there.  A reference
goes back to a name in the expression. -/

namespace CommentSchema

namespace Expr

/-- A name that stands for a type in an expression, or in a quoted type in it. -/
inductive Mentions [Dialect] : Expr → Text → Prop where
  | name (id : Text) : Mentions (.name id) id
  | dotted {value : Expr} {attr dotted : Text}
      (named : (Expr.attribute value attr).dottedName? = some dotted) :
      Mentions (.attribute value attr) dotted
  | argument {base index argument : Expr} {name : Text} (member : argument ∈ argumentsOf index)
      (inside : Mentions argument name) : Mentions (.subscript base index) name
  | left {left right : Expr} {name : Text} (inside : Mentions left name) :
      Mentions (.binary .bitOr left right) name
  | right {left right : Expr} {name : Text} (inside : Mentions right name) :
      Mentions (.binary .bitOr left right) name
  | quoted {text : Text} {marked : Bool} {expr : Expr} {name : Text}
      (parsed : TypeExpr.parse text = .ok expr) (inside : Mentions expr name) :
      Mentions (.constant (.str text marked)) name

end Expr

namespace Builder

open Definition (Everywhere)
open Error (bind_eq_ok map_eq_ok)

def schemaTypes : List Text :=
  ["string", "integer", "number", "boolean", "array", "object", "null"].map String.toList

/-- What a reference may be: after the base stands a name that is not built in, qualified by
the context unless it has a dot or there is no context. -/
def RefersTo (base context : Text) (named : Text → Prop) (ref : Text) : Prop :=
  ∃ name, named name ∧ scalars.lookup name = none ∧ name ∉ arrayNames ∧ name ∉ mapNames ∧
    ref = base ++ if '.' ∈ name ∨ context = [] then name else context ++ '.' :: name

/-- The shape of a single definition; `named` are the names that references go back to. -/
structure Shaped (base context : Text) (named : Text → Prop) (definition : Definition) :
    Prop where
  enum : definition.enum = none
  default : definition.default = .null
  examples : definition.examples = []
  description : definition.description = []
  htmlDescription : definition.htmlDescription = []
  nullable : definition.nullable = none ∨ definition.nullable = some true
  typeOrRef : definition.type = none ∨ definition.ref = none
  typeOrOneOf : definition.type = none ∨ definition.oneOf = []
  refOrOneOf : definition.ref = none ∨ definition.oneOf = []
  type : ∀ type ∈ definition.type, type ∈ schemaTypes
  items : definition.items.isSome → definition.type = some "array".toList
  additionalProperties :
    definition.additionalProperties.isSome → definition.type = some "object".toList
  format : definition.format.isSome → definition.type = some "string".toList
  oneOf : definition.oneOf = [] ∨ 2 ≤ definition.oneOf.length
  ref : ∀ ref ∈ definition.ref, RefersTo base context named ref

section

variable {base context : Text} {named : Text → Prop}

theorem Shaped.mono {named' : Text → Prop} {definition : Definition}
    (more : ∀ name, named name → named' name) (shaped : Shaped base context named definition) :
    Shaped base context named' definition := by
  refine { shaped with ref := fun ref found => ?_ }
  obtain ⟨name, isNamed, rest⟩ := shaped.ref ref found
  exact ⟨name, more name isNamed, rest⟩

/-- A schema type of its own, perhaps with a format. -/
theorem shaped_typed {type format : Option Text} (known : ∀ name ∈ type, name ∈ schemaTypes)
    (formatted : format.isSome → type = some "string".toList) :
    Shaped base context named { type, format } where
  enum := rfl
  default := rfl
  examples := rfl
  description := rfl
  htmlDescription := rfl
  nullable := .inl rfl
  typeOrRef := .inr rfl
  typeOrOneOf := .inr rfl
  refOrOneOf := .inl rfl
  type := known
  items := nofun
  additionalProperties := nofun
  format := formatted
  oneOf := .inl rfl
  ref := nofun

theorem shaped_scalar : ∀ entry ∈ scalars, Everywhere (Shaped base context named) entry.2 := by
  have plain : ∀ entry ∈ scalars, entry.2 = { type := entry.2.type, format := entry.2.format } := by
    intro entry member
    obtain ⟨⟨name, definition⟩, listed, rfl⟩ := List.mem_map.mp member
    simp only [List.mem_cons, Prod.mk.injEq, List.not_mem_nil, or_false] at listed
    rcases listed with ⟨-, rfl⟩ | ⟨-, rfl⟩ | ⟨-, rfl⟩ | ⟨-, rfl⟩ | ⟨-, rfl⟩ | ⟨-, rfl⟩ |
      ⟨-, rfl⟩ | ⟨-, rfl⟩ | ⟨-, rfl⟩ | ⟨-, rfl⟩ | ⟨-, rfl⟩ | ⟨-, rfl⟩ | ⟨-, rfl⟩ | ⟨-, rfl⟩ |
      ⟨-, rfl⟩ | ⟨-, rfl⟩ <;> rfl
  have known : ∀ entry ∈ scalars, (∀ name ∈ entry.2.type, name ∈ schemaTypes) ∧
      (entry.2.format.isSome → entry.2.type = some "string".toList) := by decide
  intro entry member
  rw [plain entry member]
  exact .leaf (shaped_typed (known entry member).1 (known entry member).2) rfl rfl rfl

theorem shaped_builtin {dotted : Text} {definition : Definition}
    (builtin : builtin? dotted = some definition) :
    Everywhere (Shaped base context named) definition := by
  unfold builtin? at builtin
  split at builtin
  · next found =>
      cases builtin
      obtain ⟨before, after, same, -⟩ := List.lookup_eq_some_iff.mp found
      exact shaped_scalar (dotted, definition) (by rw [same]; simp)
  · split at builtin
    · cases builtin
      exact .leaf (shaped_typed (by decide) nofun) rfl rfl rfl
    · split at builtin
      · cases builtin
        exact .leaf (shaped_typed (by decide) nofun) rfl rfl rfl
      · cases builtin

theorem shaped_ref {ref : Text} (refers : RefersTo base context named ref) :
    Shaped base context named { ref := some ref } where
  enum := rfl
  default := rfl
  examples := rfl
  description := rfl
  htmlDescription := rfl
  nullable := .inl rfl
  typeOrRef := .inl rfl
  typeOrOneOf := .inl rfl
  refOrOneOf := .inr rfl
  type := nofun
  items := nofun
  additionalProperties := nofun
  format := nofun
  oneOf := .inl rfl
  ref := by
    rintro _ ⟨⟩
    exact refers

theorem builtin?_eq_none {dotted : Text} : builtin? dotted = none ↔
    scalars.lookup dotted = none ∧ dotted ∉ arrayNames ∧ dotted ∉ mapNames := by
  unfold builtin?
  cases scalars.lookup dotted with
  | some definition => simp
  | none => by_cases array : dotted ∈ arrayNames <;> simp [array]

theorem shaped_named {builder : Builder} {dotted : Text} (isNamed : named dotted) :
    Everywhere (Shaped builder.base context named) (builder.named context false dotted) := by
  unfold Builder.named
  cases builtin : builtin? dotted with
  | some definition => exact shaped_builtin builtin
  | none =>
      have refers : RefersTo builder.base context named
          (builder.base ++ Reference.qualify context dotted) := by
        obtain ⟨noScalar, noArray, noMap⟩ := builtin?_eq_none.mp builtin
        refine ⟨dotted, isNamed, noScalar, noArray, noMap, ?_⟩
        simp [Reference.qualify]
      exact .leaf (shaped_ref refers) rfl rfl rfl

theorem shaped_null : Everywhere (Shaped base context named) { type := some "null".toList } :=
  .leaf (shaped_typed (by decide) nofun) rfl rfl rfl

theorem shaped_array {items : Definition}
    (shaped : Everywhere (Shaped base context named) items) :
    Everywhere (Shaped base context named)
      { type := some "array".toList, items := some items } := by
  have array : Shaped base context named { type := some "array".toList } :=
    shaped_typed (by decide) nofun
  refine .intro { array with items := fun _ => rfl } ?_ nofun nofun
  rintro _ ⟨⟩
  exact shaped

theorem shaped_object {values : Definition}
    (shaped : Everywhere (Shaped base context named) values) :
    Everywhere (Shaped base context named)
      { type := some "object".toList, additionalProperties := some values } := by
  have object : Shaped base context named { type := some "object".toList } :=
    shaped_typed (by decide) nofun
  refine .intro { object with additionalProperties := fun _ => rfl } nofun ?_ nofun
  rintro _ ⟨⟩
  exact shaped

theorem shaped_withNull {definition : Definition} (nullable : Bool)
    (shaped : Everywhere (Shaped base context named) definition) :
    Everywhere (Shaped base context named) (withNull nullable definition) := by
  cases nullable with
  | false => exact shaped
  | true =>
      obtain ⟨here, items, additionalProperties, oneOf⟩ := shaped
      exact .intro { here with nullable := .inr rfl } items additionalProperties oneOf

/-- A single alternative collapses, so a list of alternatives never has exactly one. -/
theorem shaped_alternatives {nodes : List Definition}
    (shaped : ∀ node ∈ nodes, Everywhere (Shaped base context named) node) :
    Everywhere (Shaped base context named) (alternatives nodes) := by
  have several (count : nodes = [] ∨ 2 ≤ nodes.length) :
      Everywhere (Shaped base context named) { oneOf := nodes } := by
    have free : Shaped base context named {} := shaped_typed nofun nofun
    exact .intro { free with
      typeOrOneOf := .inl rfl
      refOrOneOf := .inl rfl
      oneOf := count } nofun nofun shaped
  match nodes with
  | [] => exact several (.inl rfl)
  | [node] => exact shaped node List.mem_cons_self
  | _ :: _ :: _ => exact several (.inr (by simp))

end

/-- All alternatives that an outcome gives have the shape. -/
def Shapes (base context : Text) (named : Text → Prop) (outcome : Except Error Members) : Prop :=
  ∀ members, outcome = .ok members →
    ∀ node ∈ members.1, Everywhere (Shaped base context named) node

section

variable {base context : Text} {named : Text → Prop}

theorem shapes_ok {members : Members}
    (shaped : ∀ node ∈ members.1, Everywhere (Shaped base context named) node) :
    Shapes base context named (.ok members) := by
  rintro _ ⟨⟩
  exact shaped

theorem shapes_single {definition : Definition}
    (shaped : Everywhere (Shaped base context named) definition) :
    Shapes base context named (single definition) :=
  shapes_ok (List.forall_mem_singleton.mpr shaped)

theorem shapes_error {error : Error} : Shapes base context named (.error error) := nofun

theorem shapes_bind {outcome : Except Error α} {next : α → Except Error Members}
    (each : ∀ value, outcome = .ok value → Shapes base context named (next value)) :
    Shapes base context named (outcome >>= next) := by
  intro members success
  obtain ⟨value, found, success⟩ := bind_eq_ok.mp success
  exact each value found members success

theorem shapes_joined {left right : Except Error Members}
    (inLeft : Shapes base context named left) (inRight : Shapes base context named right) :
    Shapes base context named (joined left right) := by
  refine shapes_bind fun members found => shapes_bind fun members' found' => shapes_ok ?_
  exact List.forall_mem_append.mpr ⟨inLeft members found, inRight members' found'⟩

theorem shaped_combine {expr : Expr} {members : Except Error Members} {node : Definition}
    (shapes : Shapes base context named members) (success : combine expr members = .ok node) :
    Everywhere (Shaped base context named) node := by
  unfold combine at success
  split at success
  · cases success
    exact shaped_null
  · split at success
    · cases success
    · obtain ⟨found, same, rfl⟩ := map_eq_ok.mp success
      exact shaped_withNull _ (shaped_alternatives (shapes found same))
  · obtain ⟨found, same, rfl⟩ := map_eq_ok.mp success
    exact shaped_alternatives (shapes found same)

/-- The arguments that can be built have the shape. -/
def ShapedArguments (base context : Text) (named : Text → Prop) (arguments : List Argument) :
    Prop :=
  ∀ argument ∈ arguments, ∀ node, argument.node () = .ok node →
    Everywhere (Shaped base context named) node

theorem shaped_firstNode {arguments : List Argument} {node : Definition}
    (shaped : ShapedArguments base context named arguments)
    (success : firstNode arguments = .ok node) : Everywhere (Shaped base context named) node := by
  cases arguments with
  | nil => cases success
  | cons first rest => exact shaped first List.mem_cons_self node success

theorem shapes_argumentMembers {arguments : List Argument}
    (shaped : ShapedArguments base context named arguments) :
    Shapes base context named (argumentMembers arguments) := by
  induction arguments with
  | nil => exact shapes_ok nofun
  | cons first rest ih =>
      obtain ⟨inFirst, inRest⟩ := List.forall_mem_cons.mp shaped
      unfold argumentMembers
      split
      · exact shapes_bind fun members found => shapes_ok (ih inRest members found)
      · refine shapes_bind fun node found => shapes_bind fun members found' => shapes_ok ?_
        exact List.forall_mem_cons.mpr ⟨inFirst node found, ih inRest members found'⟩

theorem shapes_mapped {field : Text} {expr : Expr} {arguments : List Argument}
    (shaped : ShapedArguments base context named arguments) :
    Shapes base context named (mapped field expr arguments) := by
  unfold mapped
  split
  · next key value =>
      exact shapes_bind fun node found =>
        shapes_single (shaped_object (shaped value (by simp) node found))
  · exact shapes_error

theorem shapes_applied {field : Text} {expr operator : Expr} {arguments : List Argument}
    (shaped : ShapedArguments base context named arguments) :
    Shapes base context named (applied field expr operator arguments) := by
  refine shapes_bind fun generic? _ => ?_
  cases generic? with
  | none => exact shapes_error
  | some generic =>
      cases generic with
      | array =>
          exact shapes_bind fun first found =>
            shapes_single (shaped_array (shaped_firstNode shaped found))
      | optional =>
          exact shapes_bind fun first found =>
            shapes_single (shaped_withNull true (shaped_firstNode shaped found))
      | mapping => exact shapes_mapped shaped
      | union =>
          exact shapes_bind fun members found => shapes_single
            (shaped_withNull _ (shaped_alternatives (shapes_argumentMembers shaped members found)))

end

section

variable {builder : Builder} {field context : Text} {quoted : Text → Except Error Definition}

/-- By the forms of type expressions: a form that holds others hands on their shapes, and the
names they mention are mentioned in it. -/
theorem shapes_members [Dialect] (expr : Expr)
    (inQuoted : ∀ text node, quoted text = .ok node → ∀ marked,
      Everywhere (Shaped builder.base context (Expr.Mentions (.constant (.str text marked))))
        node) :
    Shapes builder.base context expr.Mentions
      (builder.members field context false quoted expr) := by
  induction expr using Expr.typeInduction with
  | null => exact shapes_ok nofun
  | quotation text marked =>
      exact shapes_bind fun node found => shapes_single (inQuoted text node found marked)
  | name id => exact shapes_single (shaped_named (.name id))
  | dotted value attr =>
      refine shapes_bind fun dotted? found => ?_
      cases dotted? with
      | none => exact shapes_error
      | some dotted =>
          have named : (Expr.attribute value attr).dottedName? = some dotted := by
            unfold dottedName? at found
            split at found
            · cases found
            · exact Except.ok.inj found
          exact shapes_single (shaped_named (.dotted named))
  | subscript base index each =>
      rw [members_subscript]
      refine shapes_applied fun argument member node success => ?_
      obtain ⟨expr, inIndex, rfl⟩ := List.mem_map.mp member
      have shaped := shaped_combine (each expr inIndex) success
      exact shaped.mono fun _ => Shaped.mono fun _ => .argument inIndex
  | alternatives left right inLeft inRight =>
      refine shapes_joined (fun members found node member => ?_)
        (fun members found node member => ?_)
      · exact (inLeft members found node member).mono fun _ => Shaped.mono fun _ => .left
      · exact (inRight members found node member).mono fun _ => Shaped.mono fun _ => .right
  | other expr form =>
      rw [members_of_not_isTypeForm _ _ _ _ _ form]
      exact shapes_error

theorem shaped_node [Dialect] {expr : Expr} {node : Definition}
    (inQuoted : ∀ text node, quoted text = .ok node → ∀ marked,
      Everywhere (Shaped builder.base context (Expr.Mentions (.constant (.str text marked))))
        node)
    (success : builder.node field context false quoted expr = .ok node) :
    Everywhere (Shaped builder.base context expr.Mentions) node :=
  shaped_combine (shapes_members expr inQuoted) success

theorem shaped_quotedNode [Dialect] {depth : Nat} {text : Text} {node : Definition}
    (success : builder.quotedNode field context false depth text = .ok node) (marked : Bool) :
    Everywhere (Shaped builder.base context (Expr.Mentions (.constant (.str text marked))))
      node := by
  induction depth generalizing text node marked with
  | zero =>
      obtain ⟨expr, parsed, success⟩ := bind_eq_ok.mp success
      have shaped := shaped_node (fun _ _ read => by cases read) success
      exact shaped.mono fun _ => Shaped.mono fun _ => .quoted parsed
  | succ depth ih =>
      obtain ⟨expr, parsed, success⟩ := bind_eq_ok.mp success
      have shaped := shaped_node (fun _ _ => ih) success
      exact shaped.mono fun _ => Shaped.mono fun _ => .quoted parsed

end

/-- Whatever is built with references has the shape at every depth, and its references go back
to names in the expression. -/
theorem build_shaped [Dialect] {builder : Builder} {field context : Text} {expr : Expr}
    {definition : Definition} (success : builder.build field expr context false = .ok definition) :
    Everywhere (Shaped builder.base context expr.Mentions) definition := by
  unfold build at success
  dsimp only at success
  split at success
  · cases success
  · exact shaped_node (fun _ _ => shaped_quotedNode) success

def quotedSpans : Text := "list[Size | None] | dict[str, a.B]".toList

theorem build_shaped_quotedSpans :
    let built : Definition :=
      { oneOf := [
          { type := some "array".toList
            items := some { ref := some "#/definitions/p.Size".toList, nullable := some true } },
          { type := some "object".toList
            additionalProperties := some { ref := some "#/definitions/a.B".toList } }] }
    build {} "spans".toList (.constant (.str quotedSpans false)) "p".toList false = .ok built ∧
      Everywhere (Shaped Reference.defaultBase "p".toList
        (Expr.constant (.str quotedSpans false)).Mentions) built := by
  intro built
  have parsed : TypeExpr.parse quotedSpans = .ok (.binary .bitOr
      (.subscript (.name "list".toList)
        (.binary .bitOr (.name "Size".toList) (.constant .none)))
      (.subscript (.name "dict".toList)
        (.tuple [.name "str".toList, .attribute (.name "a".toList) "B".toList]))) := by
    with_unfolding_all rfl
  have quoted : quotedNode {} "spans".toList "p".toList false quotedSpans.length quotedSpans =
      .ok built := by
    have length : quotedSpans.length = 34 := rfl
    rw [length, quotedNode, parsed]
    rfl
  have success : build {} "spans".toList (.constant (.str quotedSpans false)) "p".toList false =
      .ok built := by
    simp only [build, node, combine, members, quoted, single]
    rfl
  exact ⟨success, build_shaped success⟩

end Builder

end CommentSchema
