import CommentSchema.Proofs.Change
import CommentSchema.Proofs.Text.Occurrence

/-! Building in a context is building without one and qualifying the bare references afterwards.
The context reaches nothing else: builtin and dotted names, the shape of the result and the
errors are the same in every context. -/

namespace CommentSchema.Builder

/-- The reference with the context in front of a bare name. -/
def qualifiedRef (builder : Builder) (context ref : Text) : Text :=
  match builder.base.isPrefixOf? ref with
  | some name => if '.' ∈ name then ref else builder.base ++ context ++ '.' :: name
  | none => ref

mutual
/-- The definition with the context in front of every bare name that is referred to in it, at
every depth. -/
def qualified (builder : Builder) (context : Text) (definition : Definition) : Definition :=
  match definition with
  | ⟨type, ref, format, nullable, items, additionalProperties, enum, default, oneOf, examples,
      description, htmlDescription⟩ =>
      ⟨type, ref.map (builder.qualifiedRef context), format, nullable,
        builder.qualifiedOption context items,
        builder.qualifiedOption context additionalProperties, enum, default,
        builder.qualifiedEach context oneOf, examples, description, htmlDescription⟩
termination_by structural definition

def qualifiedOption (builder : Builder) (context : Text) (definition : Option Definition) :
    Option Definition :=
  match definition with
  | none => none
  | some definition => some (builder.qualified context definition)
termination_by structural definition

def qualifiedEach (builder : Builder) (context : Text) (definitions : List Definition) :
    List Definition :=
  match definitions with
  | [] => []
  | definition :: rest =>
      builder.qualified context definition :: builder.qualifiedEach context rest
termination_by structural definitions
end

variable {builder : Builder} {context : Text}

theorem qualifiedEach_eq_map (definitions : List Definition) :
    builder.qualifiedEach context definitions = definitions.map (builder.qualified context) := by
  induction definitions with
  | nil => rfl
  | cons definition rest ih => rw [qualifiedEach, ih, List.map_cons]

theorem qualified_oneOf (nodes : List Definition) :
    builder.qualified context { oneOf := nodes } =
      { oneOf := nodes.map (builder.qualified context) } := by
  rw [← qualifiedEach_eq_map]
  rfl

theorem qualified_goesInside (builder : Builder) (context : Text) :
    GoesInside (builder.qualified context) where
  null := rfl
  array _ := rfl
  object _ := rfl
  withNull nullable definition := by
    cases definition
    cases nullable with
    | false => rfl
    | true => rfl
  alternatives nodes := by
    match nodes with
    | [] => exact qualified_oneOf []
    | [node] => rfl
    | first :: second :: others => exact qualified_oneOf (first :: second :: others)

theorem qualifiedRef_append (given : context ≠ []) (name : Text) :
    builder.qualifiedRef context (builder.base ++ name) =
      builder.base ++ Reference.qualify context name := by
  rw [qualifiedRef, Text.isPrefixOf?_append, Reference.qualify]
  by_cases dotted : '.' ∈ name
  · simp [dotted]
  · simp [dotted, given]

theorem qualified_of_builtin {dotted : Text} {definition : Definition}
    (builtin : builtin? dotted = some definition) :
    builder.qualified context definition = definition := by
  obtain ⟨ref, items, additionalProperties, oneOf⟩ := plain_of_builtin builtin
  cases definition
  simp_all [qualified, qualifiedOption, qualifiedEach]

theorem qualified_named (given : context ≠ []) (dotted : Text) :
    builder.named context false dotted =
      builder.qualified context (builder.named [] false dotted) := by
  unfold named
  cases builtin : builtin? dotted with
  | some definition => exact (qualified_of_builtin builtin).symm
  | none =>
      have bare : Reference.qualify [] dotted = dotted := by simp [Reference.qualify]
      have placed : builder.qualifiedRef context (builder.base ++ dotted) =
          builder.base ++ Reference.qualify context dotted := qualifiedRef_append given dotted
      simp only [bare]
      rw [← placed]
      rfl

/-- In a context the builder makes what it makes without one, with every bare reference
qualified, and ends with the same errors. -/
theorem build_in_context [Dialect] (builder : Builder) (field : Text) (expr : Expr) {context : Text}
    (given : context ≠ []) :
    builder.build field expr context false =
      (builder.build field expr [] false).map (builder.qualified context) :=
  (qualified_goesInside builder context).build (qualified_named given) expr

/-- In `dict[str, Foo | a.B | "Bar"]` the bare names belong to the context, a quoted one too. -/
theorem build_in_context_quotedMember :
    let expr := Expr.subscript (.name "dict".toList) (.tuple [.name "str".toList,
      .binary .bitOr (.binary .bitOr (.name "Foo".toList)
        (.attribute (.name "a".toList) "B".toList)) (.constant (.str "Bar".toList false))])
    let holding (first third : String) : Definition :=
      { type := some "object".toList
        additionalProperties := some
          { oneOf := [{ ref := some first.toList }, { ref := some "#/definitions/a.B".toList },
              { ref := some third.toList }] } }
    let bare := holding "#/definitions/Foo" "#/definitions/Bar"
    let placed := holding "#/definitions/p.Foo" "#/definitions/p.Bar"
    "p".toList ≠ [] ∧ ({} : Builder).build [] expr [] false = .ok bare ∧
      ({} : Builder).qualified "p".toList bare = placed ∧
      ({} : Builder).build [] expr "p".toList false = .ok placed := by
  intro expr holding bare placed
  have given : "p".toList ≠ [] := by decide
  have read : TypeExpr.parse "Bar".toList = .ok (.name "Bar".toList) := by
    with_unfolding_all rfl
  have quotation : ({} : Builder).quotedNode [] [] false 3 "Bar".toList =
      .ok { ref := some "#/definitions/Bar".toList } := by
    rw [quotedNode, read]
    rfl
  have without : ({} : Builder).build [] expr [] false = .ok bare := by
    have length : "Bar".toList.length = 3 := rfl
    simp only [build, node, expr, members, arguments, length, quotation]
    rfl
  have moved : ({} : Builder).qualified "p".toList bare = placed := rfl
  refine ⟨given, without, moved, ?_⟩
  rw [build_in_context {} [] expr given, without, ← moved]
  rfl

end CommentSchema.Builder
