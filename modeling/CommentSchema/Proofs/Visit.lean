import CommentSchema.Proofs.Union
import Mathlib.Logic.Relation

/-! Which expressions the builder reads on its way through a type.  What it reads is built, or
the whole type is refused.  Of the arguments of a list or of an optional type it reads the first
one only and of the two of a mapping the second; whatever else is written there has no part in
the definition. -/

namespace CommentSchema

namespace Builder

/-- To build the expression the builder reads another one. -/
inductive Reads [Dialect] : Expr → Expr → Prop
  | quoted {text : Text} {type : Expr} (marked : Bool) (read : TypeExpr.parse text = .ok type) :
      Reads (.constant (.str text marked)) type
  | member {expr member : Expr} {members : List Expr} (unites : Unites expr members)
      (present : member ∈ members) (visible : isNull member = false) : Reads expr member
  | first {base index first : Expr} {others : List Expr}
      (generic : generic? base = .ok (some .array) ∨ generic? base = .ok (some .optional))
      (split : index.argumentsOf = first :: others) : Reads (.subscript base index) first
  | value {base index key value : Expr} (mapping : generic? base = .ok (some .mapping))
      (split : index.argumentsOf = [key, value]) : Reads (.subscript base index) value

/-- The expressions that the builder reads on its way. -/
abbrev Visits [Dialect] : Expr → Expr → Prop := Relation.ReflTransGen Reads

/-- The expression is written where the other one takes a type. -/
inductive HasArgument : Expr → Expr → Prop
  | element {base index argument : Expr} {generic : Generic}
      (named : generic? base = .ok (some generic)) (present : argument ∈ index.argumentsOf) :
      HasArgument (.subscript base index) argument
  | leaf {expr argument : Expr} (union : expr.isUnion = true) (present : argument ∈ expr.leaves) :
      HasArgument expr argument

/-- An argument that the builder has no use for. -/
inductive Skips : Expr → Expr → Prop
  | rest {base index first argument : Expr} {others : List Expr}
      (generic : generic? base = .ok (some .array) ∨ generic? base = .ok (some .optional))
      (split : index.argumentsOf = first :: others) (present : argument ∈ others) :
      Skips (.subscript base index) argument
  | key {base index key value : Expr} (mapping : generic? base = .ok (some .mapping))
      (split : index.argumentsOf = [key, value]) : Skips (.subscript base index) key

def tupleNames : List Text := ["tuple", "Tuple", "typing.Tuple"].map String.toList

/-- The dots of a tuple say that there may be more of the one type. -/
inductive IsSpread : Expr → Expr → Prop
  | tuple {base index first : Expr} {name : Text} (named : base.dottedName? = some name)
      (tuple : name ∈ tupleNames) (split : index.argumentsOf = [first, .constant .ellipsis]) :
      IsSpread (.subscript base index) (.constant .ellipsis)

section

variable {builder : Builder} {field context : Text} {inline : Bool}
  {quoted : Text → Except Error Definition} {expr other : Expr}

theorem exists_of_forall₂ {R : α → β → Prop} {items : List α} {results : List β} {item : α}
    (each : List.Forall₂ R items results) (present : item ∈ items) : ∃ result, R item result := by
  induction each with
  | nil => cases present
  | cons first _ ih =>
      rcases List.mem_cons.mp present with rfl | later
      · exact ⟨_, first⟩
      · exact ih later

theorem node_of_mem {members : List Expr} {member : Expr} {definition : Definition}
    (unites : Unites expr members)
    (built : builder.node field context inline quoted expr = .ok definition)
    (present : member ∈ members) (visible : isNull member = false) :
    ∃ node, builder.node field context inline quoted member = .ok node := by
  obtain ⟨⟨nodes, nullable⟩, found, -⟩ := Error.map_eq_ok.mp (united_of_node unites built)
  exact exists_of_forall₂ (forall₂_of_argumentMembers found)
    (List.mem_filter.mpr ⟨present, by simp [visible]⟩)

theorem node_of_first {base index : Expr} {definition : Definition}
    (generic : generic? base = .ok (some .array) ∨ generic? base = .ok (some .optional))
    (built : builder.node field context inline quoted (.subscript base index) = .ok definition) :
    ∃ first others node, index.argumentsOf = first :: others ∧
      builder.node field context inline quoted first = .ok node := by
  rcases generic with array | optional
  · rw [node_subscript, applied, array, Error.ok_bind] at built
    obtain ⟨members, found, -⟩ := Error.map_eq_ok.mp built
    obtain ⟨node, found, -⟩ := Error.bind_eq_ok.mp found
    obtain ⟨first, others, split, hasNode⟩ := firstNode_map_eq_ok found
    exact ⟨first, others, node, split, hasNode⟩
  · obtain ⟨first, others, node, split, hasNode, -⟩ := node_optional_eq_ok optional built
    exact ⟨first, others, node, split, hasNode⟩

theorem mapped_map_eq_ok {exprs : List Expr} {found : Members}
    (built : mapped field expr (exprs.map (builder.argument field context inline quoted)) =
      .ok found) :
    ∃ key value node, exprs = [key, value] ∧
      builder.node field context inline quoted value = .ok node := by
  rcases exprs with _ | ⟨key, _ | ⟨value, _ | ⟨other, others⟩⟩⟩
  · cases built
  · cases built
  · obtain ⟨node, hasNode, -⟩ := Error.bind_eq_ok.mp built
    exact ⟨key, value, node, rfl, hasNode⟩
  · cases built

theorem node_of_value {base index : Expr} {definition : Definition}
    (mapping : generic? base = .ok (some .mapping))
    (built : builder.node field context inline quoted (.subscript base index) = .ok definition) :
    ∃ key value node, index.argumentsOf = [key, value] ∧
      builder.node field context inline quoted value = .ok node := by
  rw [node_subscript, applied, mapping, Error.ok_bind] at built
  obtain ⟨members, found, -⟩ := Error.map_eq_ok.mp built
  obtain ⟨key, value, node, split, hasNode⟩ := mapped_map_eq_ok found
  exact ⟨key, value, node, split, hasNode⟩

/-- The one subscript differs from the other only in arguments that are skipped. -/
inductive SameRead : Expr → Expr → Prop
  | first {base index index' first : Expr} {others others' : List Expr}
      (generic : generic? base = .ok (some .array) ∨ generic? base = .ok (some .optional))
      (split : index.argumentsOf = first :: others)
      (split' : index'.argumentsOf = first :: others') :
      SameRead (.subscript base index) (.subscript base index')
  | value {base index index' key key' value : Expr}
      (mapping : generic? base = .ok (some .mapping)) (split : index.argumentsOf = [key, value])
      (split' : index'.argumentsOf = [key', value]) :
      SameRead (.subscript base index) (.subscript base index')

theorem members_of_sameRead (same : SameRead expr other) :
    builder.members field context inline quoted expr =
      builder.members field context inline quoted other := by
  cases same with
  | first generic split split' =>
      rw [members_subscript, members_subscript, split, split']
      rcases generic with array | optional
      · simp only [applied, array]
        rfl
      · simp only [applied, optional]
        rfl
  | value mapping split split' =>
      rw [members_subscript, members_subscript, split, split']
      simp only [applied, mapping]
      rfl

theorem standsFor_of_sameRead (same : SameRead expr other) :
    builder.StandsFor field context inline quoted expr other where
  null := by cases same <;> rfl
  union := by cases same <;> rfl
  links := by cases same <;> rfl
  sole := by cases same <;> exact ⟨rfl, rfl⟩
  members _ built := (members_of_sameRead same).symm.trans built

theorem SameRead.symm (same : SameRead expr other) : SameRead other expr := by
  cases same with
  | first generic split split' => exact .first generic split' split
  | value mapping split split' => exact .value mapping split' split

end

variable {builder : Builder} {field context : Text} {inline : Bool} {expr other visited : Expr}

/-- The builder has a definition for the expression. -/
def Accepts [Dialect] (builder : Builder) (field context : Text) (inline : Bool)
    (expr : Expr) : Prop :=
  ∃ definition, builder.build field expr context inline = .ok definition

theorem accepts_iff [Dialect] :
    builder.Accepts field context inline expr ↔
      ∃ definition, builder.node field context inline
        (builder.quotedAt field context inline none) expr = .ok definition := by
  simp only [Accepts, build_eq_ok]

theorem accepts_of_isNull [Dialect] (null : isNull expr = true) :
    builder.Accepts field context inline expr := by
  rw [eq_null_of_isNull null]
  exact ⟨_, rfl⟩

theorem accepts_of_reads [Dialect] (accepts : builder.Accepts field context inline expr)
    (reads : Reads expr other) : builder.Accepts field context inline other := by
  rw [accepts_iff] at accepts ⊢
  obtain ⟨definition, built⟩ := accepts
  cases reads with
  | quoted marked read =>
      rw [node_quotation, quotedAt_none, read] at built
      exact ⟨definition, built⟩
  | member unites present visible => exact node_of_mem unites built present visible
  | first generic split =>
      obtain ⟨first, others, node, found, hasNode⟩ := node_of_first generic built
      cases split.symm.trans found
      exact ⟨node, hasNode⟩
  | value mapping split =>
      obtain ⟨key, value, node, found, hasNode⟩ := node_of_value mapping built
      cases split.symm.trans found
      exact ⟨node, hasNode⟩

theorem accepts_of_visits [Dialect] (accepts : builder.Accepts field context inline expr)
    (visits : Visits expr visited) : builder.Accepts field context inline visited := by
  induction visits with
  | refl => exact accepts
  | tail _ reads ih => exact accepts_of_reads ih reads

/-- What is written as an argument is read, skipped or null. -/
theorem reads_or_skips [Dialect] {argument : Expr}
    (accepts : builder.Accepts field context inline expr)
    (written : HasArgument expr argument) :
    Reads expr argument ∨ Skips expr argument ∨ isNull argument = true := by
  obtain ⟨definition, built⟩ := accepts_iff.mp accepts
  have member {members : List Expr} (unites : Unites expr members)
      (present : argument ∈ members) : Reads expr argument ∨ isNull argument = true := by
    cases null : isNull argument with
    | true => exact .inr rfl
    | false => exact .inl (.member unites present null)
  have first {base index : Expr} (same : expr = .subscript base index)
      (generic : generic? base = .ok (some .array) ∨ generic? base = .ok (some .optional))
      (present : argument ∈ index.argumentsOf) : Reads expr argument ∨ Skips expr argument := by
    subst same
    obtain ⟨first, others, -, split, -⟩ := node_of_first generic built
    rw [split] at present
    rcases List.mem_cons.mp present with rfl | skipped
    · exact .inl (.first generic split)
    · exact .inr (.rest generic split skipped)
  -- As the type is accepted, each subscript has the arguments that its name asks for.
  cases written with
  | leaf union present => exact (member (.chain union) present).imp_right .inr
  | @element base index _ generic named present =>
      cases generic with
      | array => exact or_assoc.mp (.inl (first rfl (.inl named) present))
      | optional => exact or_assoc.mp (.inl (first rfl (.inr named) present))
      | mapping =>
          obtain ⟨key, value, -, split, -⟩ := node_of_value named built
          rw [split] at present
          rcases List.mem_pair.mp present with rfl | rfl
          · exact .inr (.inl (.key named split))
          · exact .inl (.value named split)
      | union => exact (member (.listed index named) present).imp_right .inr

theorem hasArgument_of_skips {argument : Expr} (skips : Skips expr argument) :
    HasArgument expr argument := by
  cases skips with
  | rest generic split present =>
      have written : argument ∈ _ := split ▸ List.mem_cons_of_mem _ present
      rcases generic with array | optional
      · exact .element array written
      · exact .element optional written
  | key mapping split => exact .element mapping (split ▸ List.mem_cons_self)

/-- Whatever the builder reads in a type that it accepts, it accepts too.  So it accepts every
argument in the type, but for the dots of a tuple, where it accepts those that it skips; but as
it never reads these, any other arguments in their stead leave the definition as it is. -/
theorem build_arguments_read [Dialect] (builder : Builder) (field context : Text) (inline : Bool) :
    let accepted (expr : Expr) := builder.Accepts field context inline expr
    (∀ expr visited, accepted expr → Visits expr visited → accepted visited) ∧
    (∀ expr, accepted expr →
      ((∀ visited argument, Visits expr visited → HasArgument visited argument →
          ¬ IsSpread visited argument → accepted argument) ↔
        ∀ visited argument, Visits expr visited → Skips visited argument →
          ¬ IsSpread visited argument → accepted argument)) ∧
    ∀ (place : Place) (expr other : Expr) (definition : Definition), SameRead expr other →
      (builder.build field (place.fill expr) context inline = .ok definition ↔
        builder.build field (place.fill other) context inline = .ok definition) := by
  refine ⟨fun expr visited => accepts_of_visits, fun expr accepts => ⟨?_, ?_⟩, ?_⟩
  · intro all visited argument visits skips
    exact all visited argument visits (hasArgument_of_skips skips)
  · intro skipped visited argument visits written plain
    have acceptsVisited := accepts_of_visits accepts visits
    rcases reads_or_skips acceptsVisited written with reads | skips | null
    · exact accepts_of_reads acceptsVisited reads
    · exact skipped visited argument visits skips plain
    · exact accepts_of_isNull null
  · intro place expr other definition same
    rw [build_eq_ok, build_eq_ok]
    exact ⟨((standsFor_of_sameRead same).fillAll place).follows definition,
      ((standsFor_of_sameRead same.symm).fillAll place).follows definition⟩

/-- In `dict[str, tuple[int, ...] | None]` the type of the elements is read, but not the dots. -/
theorem build_arguments_read_tuple :
    let builder : Builder := {}
    let accepted (expr : Expr) := builder.Accepts "field".toList [] false expr
    let tuple (argument : Expr) :=
      Expr.subscript (.name "tuple".toList) (.tuple [.name "int".toList, argument])
    let dots := tuple (.constant .ellipsis)
    let sum := tuple (.binary .add (.constant (.int 1)) (.constant (.int 2)))
    let place : Place := [.element (.name "dict".toList) [.name "str".toList] [],
      .left (.constant .none)]
    let tuples : Definition :=
      { type := some "array".toList
        items := some { type := some "integer".toList }
        nullable := some true }
    let definition : Definition :=
      { type := some "object".toList, additionalProperties := some tuples }
    accepted (place.fill dots) ∧ Visits (place.fill dots) (.name "int".toList) ∧
      accepted (.name "int".toList) ∧
      ((∀ visited argument, Visits (place.fill dots) visited → HasArgument visited argument →
          ¬ IsSpread visited argument → accepted argument) ↔
        ∀ visited argument, Visits (place.fill dots) visited → Skips visited argument →
          ¬ IsSpread visited argument → accepted argument) ∧
      SameRead dots sum ∧
      builder.build "field".toList (place.fill dots) [] false = .ok definition ∧
      builder.build "field".toList (place.fill sum) [] false = .ok definition := by
  intro builder accepted tuple dots sum place tuples definition
  have read := build_arguments_read builder "field".toList [] false
  have built : builder.build "field".toList (place.fill dots) [] false = .ok definition := rfl
  have accepts : accepted (place.fill dots) := ⟨definition, built⟩
  have visits : Visits (place.fill dots) (.name "int".toList) :=
    .head (.value rfl rfl) (.head (.member (.chain rfl) List.mem_cons_self rfl)
      (.single (.first (.inl rfl) rfl)))
  have same : SameRead dots sum := .first (.inl rfl) rfl rfl
  exact ⟨accepts, visits, read.1 _ _ accepts visits, read.2.1 _ accepts, same, built,
    (read.2.2 place dots sum definition same).mp built⟩

/-- An unsupported expression is accepted where the builder skips it. -/
theorem build_skipsUnsupported :
    let builder : Builder := {}
    let built (expr : Expr) := builder.build "field".toList expr [] false
    let sum := Expr.binary .add (.constant (.int 1)) (.constant (.int 2))
    let int := Expr.name "int".toList
    let integer : Definition := { type := some "integer".toList }
    let list := Expr.subscript (.name "list".toList) (.tuple [int, sum])
    let optional := Expr.subscript (.name "Optional".toList) (.tuple [int, sum])
    let dict := Expr.subscript (.name "dict".toList) (.tuple [sum, int])
    built list = .ok { type := some "array".toList, items := some integer } ∧
      built optional = .ok { integer with nullable := some true } ∧
      built dict = .ok { type := some "object".toList, additionalProperties := some integer } ∧
      HasArgument list sum ∧ HasArgument optional sum ∧ HasArgument dict sum ∧
      (∀ visited, ¬ IsSpread visited sum) ∧
      built sum = .error (.comment
        ⟨.typeUnsupported "1 + 2".toList, "field".toList, some "1 + 2".toList⟩) := by
  intro builder built sum int integer list optional dict
  have shown : TypeExpr.print sum = .ok "1 + 2".toList := by cbv
  refine ⟨rfl, rfl, rfl, .element rfl (by simp [Expr.argumentsOf]),
    .element rfl (by simp [Expr.argumentsOf]), .element rfl (by simp [Expr.argumentsOf]),
    ?_, build_eq_comment ?_⟩
  · intro visited (spread : IsSpread visited (.binary .add (.constant (.int 1)) _))
    cases spread
  · have same : refuse .typeUnsupported "field".toList sum = .comment
        ⟨.typeUnsupported "1 + 2".toList, "field".toList, some "1 + 2".toList⟩ := by
      rw [refuse, shown]
    rw [← same]
    rfl

end Builder

end CommentSchema
