import CommentSchema.Proofs.Members

/-! Two ways of building that differ by a change of definitions.  A change that goes inside the
forms which the builder makes, and turns what one way makes of a name into what the other makes
of it, turns the one result into the other; both ways end with the same errors. -/

namespace CommentSchema.Builder

open Error (map_bind bind_map map_ok)

/-- It is the same to change the parts of what the builder makes and to change the whole. -/
structure GoesInside (change : Definition → Definition) : Prop where
  null : change { type := some "null".toList } = { type := some "null".toList }
  array (inner : Definition) : change { type := some "array".toList, items := some inner } =
    { type := some "array".toList, items := some (change inner) }
  object (inner : Definition) :
    change { type := some "object".toList, additionalProperties := some inner } =
      { type := some "object".toList, additionalProperties := some (change inner) }
  withNull (nullable : Bool) (definition : Definition) :
    change (withNull nullable definition) = withNull nullable (change definition)
  alternatives (nodes : List Definition) :
    change (alternatives nodes) = alternatives (nodes.map change)

/-- The alternatives that an expression stands for, each of them changed. -/
def changedMembers (change : Definition → Definition) (members : Members) : Members :=
  (members.1.map change, members.2)

variable {change : Definition → Definition}

theorem GoesInside.single (definition : Definition) :
    single (change definition) = (single definition).map (changedMembers change) := rfl

theorem GoesInside.joined (left right : Except Error Members) :
    joined (left.map (changedMembers change)) (right.map (changedMembers change)) =
      (joined left right).map (changedMembers change) := by
  simp only [Builder.joined, map_bind, bind_map, map_ok, changedMembers, List.map_append]

theorem GoesInside.combine (inside : GoesInside change) (expr : Expr)
    (members : Except Error Members) :
    combine expr (members.map (changedMembers change)) =
      (combine expr members).map change := by
  unfold Builder.combine
  split
  · exact congrArg Except.ok inside.null.symm
  · split
    · rfl
    · cases members with
      | error error => rfl
      | ok members =>
          obtain ⟨nodes, nullable⟩ := members
          simp only [Except.map, changedMembers, inside.withNull, inside.alternatives]
  · cases members with
    | error error => rfl
    | ok members =>
        obtain ⟨nodes, nullable⟩ := members
        simp only [Except.map, changedMembers, inside.alternatives]

section

variable {builder builder' : Builder} {field context context' : Text} {inline inline' : Bool}
  {quoted quoted' : Text → Except Error Definition}

/-- Both ways make the same of an expression, but for the change. -/
def Changes (change : Definition → Definition) (way way' : Expr → Except Error Definition)
    (expr : Expr) : Prop := way' expr = (way expr).map change

theorem firstNode_change {exprs : List Expr}
    (each : ∀ expr ∈ exprs, Changes change (builder.node field context inline quoted)
      (builder'.node field context' inline' quoted') expr) :
    firstNode (exprs.map (builder'.argument field context' inline' quoted')) =
      (firstNode (exprs.map (builder.argument field context inline quoted))).map change := by
  cases exprs with
  | nil => rfl
  | cons expr others => exact each expr List.mem_cons_self

theorem argumentMembers_change {exprs : List Expr}
    (each : ∀ expr ∈ exprs, Changes change (builder.node field context inline quoted)
      (builder'.node field context' inline' quoted') expr) :
    argumentMembers (exprs.map (builder'.argument field context' inline' quoted')) =
      (argumentMembers (exprs.map (builder.argument field context inline quoted))).map
        (changedMembers change) := by
  induction exprs with
  | nil => rfl
  | cons first rest ih =>
      rw [List.forall_mem_cons] at each
      have others := ih each.2
      have node := each.1
      simp only [Changes] at node
      simp only [List.map_cons, argumentMembers, argument] at others ⊢
      rw [others, node]
      cases isNull first with
      | true => simp [map_bind, bind_map, map_ok, changedMembers]
      | false => simp [map_bind, bind_map, map_ok, changedMembers]

theorem GoesInside.mapped (inside : GoesInside change) {expr : Expr} {exprs : List Expr}
    (each : ∀ expr ∈ exprs, Changes change (builder.node field context inline quoted)
      (builder'.node field context' inline' quoted') expr) :
    mapped field expr (exprs.map (builder'.argument field context' inline' quoted')) =
      (mapped field expr (exprs.map (builder.argument field context inline quoted))).map
        (changedMembers change) := by
  match exprs with
  | [key, value] =>
      have node : builder'.node field context' inline' quoted' value = _ := each value (by simp)
      simp only [List.map_cons, List.map_nil, Builder.mapped, argument, node, map_bind, bind_map]
      refine bind_congr fun value => ?_
      rw [← inside.object, GoesInside.single]
  | [] | [_] | _ :: _ :: _ :: _ => rfl

theorem GoesInside.applied (inside : GoesInside change) {expr base : Expr} {exprs : List Expr}
    (each : ∀ expr ∈ exprs, Changes change (builder.node field context inline quoted)
      (builder'.node field context' inline' quoted') expr) :
    applied field expr base (exprs.map (builder'.argument field context' inline' quoted')) =
      (applied field expr base (exprs.map (builder.argument field context inline quoted))).map
        (changedMembers change) := by
  simp only [Builder.applied, map_bind]
  refine bind_congr fun generic? => ?_
  cases generic? with
  | none => rfl
  | some generic =>
      cases generic with
      | array =>
          simp only [firstNode_change each, map_bind, bind_map]
          refine bind_congr fun first => ?_
          rw [← inside.array, GoesInside.single]
      | optional =>
          simp only [firstNode_change each, map_bind, bind_map]
          refine bind_congr fun first => ?_
          rw [← inside.withNull, GoesInside.single]
      | mapping => exact inside.mapped each
      | union =>
          simp only [argumentMembers_change each, map_bind, bind_map]
          refine bind_congr fun members => ?_
          rw [← GoesInside.single, inside.withNull, inside.alternatives]
          rfl

theorem GoesInside.node (inside : GoesInside change) {expr : Expr}
    (members : builder'.members field context' inline' quoted' expr =
      (builder.members field context inline quoted expr).map (changedMembers change)) :
    Changes change (builder.node field context inline quoted)
      (builder'.node field context' inline' quoted') expr := by
  unfold Changes Builder.node
  rw [members, inside.combine]

variable (inside : GoesInside change)
  (names : ∀ dotted, builder'.named context' inline' dotted =
    change (builder.named context inline dotted))

include inside names

/-- By the forms of type expressions: a name and a quotation are where the change comes in, and
every other form passes on what its parts give. -/
theorem GoesInside.members (quotations : ∀ text, quoted' text = (quoted text).map change)
    (expr : Expr) : builder'.members field context' inline' quoted' expr =
      (builder.members field context inline quoted expr).map (changedMembers change) := by
  induction expr using Expr.typeInduction with
  | null => rfl
  | quotation text marked =>
      simp only [Builder.members, quotations, map_bind, bind_map]
      rfl
  | name id => rw [Builder.members, Builder.members, names, GoesInside.single]
  | dotted value attr =>
      simp only [Builder.members, map_bind]
      refine bind_congr fun dotted? => ?_
      cases dotted? with
      | none => rfl
      | some dotted => simp only [names, GoesInside.single]
  | subscript base index each =>
      rw [members_subscript, members_subscript,
        inside.applied fun argument member => inside.node (each argument member)]
  | alternatives left right inLeft inRight =>
      rw [Builder.members, Builder.members, inLeft, inRight, GoesInside.joined]
  | other expr form =>
      rw [members_of_not_isTypeForm _ _ _ _ _ form, members_of_not_isTypeForm _ _ _ _ _ form]
      rfl

theorem GoesInside.quotedNode [Dialect] (depth : Nat) (text : Text) :
    builder'.quotedNode field context' inline' depth text =
      (builder.quotedNode field context inline depth text).map change := by
  induction depth generalizing text with
  | zero =>
      have exhausted (text : Text) : (.error .depthExceeded : Except Error Definition) =
          Except.map change (.error .depthExceeded) := rfl
      simp only [Builder.quotedNode, map_bind]
      refine bind_congr fun expr => ?_
      exact inside.node (inside.members names exhausted expr)
  | succ depth ih =>
      simp only [Builder.quotedNode, map_bind]
      refine bind_congr fun expr => ?_
      exact inside.node (inside.members names ih expr)

/-- Quotations are read alike in both ways, so the change may wait until all is built. -/
theorem GoesInside.build [Dialect] (expr : Expr) :
    builder'.build field expr context' inline' =
      (builder.build field expr context inline).map change := by
  have quotations (text : Text) :
      builder'.quotedNode field context' inline' text.length text =
        (builder.quotedNode field context inline text.length text).map change :=
    inside.quotedNode names text.length text
  have node : Changes change
      (builder.node field context inline
        fun text => builder.quotedNode field context inline text.length text)
      (builder'.node field context' inline'
        fun text => builder'.quotedNode field context' inline' text.length text) expr :=
    inside.node (inside.members names quotations expr)
  simp only [Changes] at node
  simp only [Builder.build, node]
  cases builder.node field context inline
    (fun text => builder.quotedNode field context inline text.length text) expr with
  | ok definition => rfl
  | error error => cases error <;> rfl

end

end CommentSchema.Builder
