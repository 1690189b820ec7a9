import CommentSchema.Proofs.Forward

/-! The spellings of a union.  A chain of alternatives, the arguments of a union and an
optional type are built from the same list of members: the null constants are taken out of it
and only leave behind that there were some, and what is left is built in order. -/

namespace CommentSchema

namespace Expr

/-- The members of a chain of alternatives. -/
def leaves : Expr → List Expr
  | .binary .bitOr left right => left.leaves ++ right.leaves
  | expr => [expr]

/-- The chain of several members as it is read, from the left. -/
def chain (first : Expr) (rest : List Expr) : Expr := rest.foldl (.binary .bitOr) first

theorem leaves_of_not_isUnion {expr : Expr} (noUnion : expr.isUnion = false) :
    expr.leaves = [expr] := by
  cases expr with
  | binary op left right =>
      cases op with
      | bitOr => cases noUnion
      | _ => rfl
  | _ => rfl

theorem leaves_chain {rest : List Expr} (first : Expr)
    (noUnion : ∀ expr ∈ rest, expr.isUnion = false) :
    (chain first rest).leaves = first.leaves ++ rest := by
  induction rest generalizing first with
  | nil => exact (List.append_nil first.leaves).symm
  | cons second rest ih =>
      rw [List.forall_mem_cons] at noUnion
      have step := ih (.binary .bitOr first second) noUnion.2
      rw [leaves, leaves_of_not_isUnion noUnion.1, List.append_assoc] at step
      exact step

theorem isUnion_chain (first second : Expr) (rest : List Expr) :
    (chain first (second :: rest)).isUnion = true := by
  induction rest generalizing first second with
  | nil => rfl
  | cons third rest ih => exact ih (.binary .bitOr first second) third

end Expr

namespace Builder

theorem unionLinks_chain {rest : List Expr} (first : Expr)
    (noUnion : ∀ expr ∈ rest, expr.isUnion = false) :
    unionLinks (first.chain rest) = unionLinks first + rest.length := by
  induction rest generalizing first with
  | nil => rfl
  | cons second rest ih =>
      rw [List.forall_mem_cons] at noUnion
      have step := ih (.binary .bitOr first second) noUnion.2
      rw [unionLinks, unionLinks_eq_zero noUnion.1, Nat.max_zero] at step
      rw [Expr.chain, List.foldl_cons, List.length_cons]
      exact step.trans (by omega)

/-! ### The members of a union -/

theorem joined_nil (members : Except Error Members) :
    joined (.ok ([], false)) members = members := by
  cases members with
  | ok found => rfl
  | error fault => rfl

theorem joined_assoc (first second third : Except Error Members) :
    joined (joined first second) third = joined first (joined second third) := by
  cases first with
  | error fault => rfl
  | ok members =>
      cases second with
      | error fault => rfl
      | ok members' =>
          cases third with
          | error fault => rfl
          | ok members'' =>
              simp only [joined, Error.ok_bind, List.append_assoc, Bool.or_assoc]

theorem argumentMembers_cons (argument : Argument) (rest : List Argument) :
    argumentMembers (argument :: rest) =
      joined (argumentMembers [argument]) (argumentMembers rest) := by
  simp only [argumentMembers]
  split
  · cases argumentMembers rest <;> rfl
  · cases argument.node () with
    | error fault => rfl
    | ok definition => cases argumentMembers rest <;> rfl

theorem argumentMembers_append (first rest : List Argument) :
    argumentMembers (first ++ rest) = joined (argumentMembers first) (argumentMembers rest) := by
  induction first with
  | nil => exact (joined_nil (argumentMembers rest)).symm
  | cons argument first ih =>
      rw [List.cons_append, argumentMembers_cons, ih, argumentMembers_cons argument first,
        joined_assoc]

theorem argumentMembers_filter (arguments : List Argument) :
    argumentMembers arguments =
      (argumentMembers (arguments.filter (!·.isNull))).map fun (nodes, _) =>
        (nodes, arguments.any (·.isNull)) := by
  -- A null argument is not asked for its node, so it cannot fail either.
  induction arguments with
  | nil => rfl
  | cons argument rest ih =>
      cases null : argument.isNull with
      | true =>
          rw [argumentMembers, if_pos null, ih, List.filter_cons_of_neg (by simp [null])]
          cases argumentMembers (rest.filter (!·.isNull)) with
          | error fault => rfl
          | ok members => simp only [Except.map, Error.ok_bind, List.any_cons, null, Bool.true_or]
      | false =>
          have visible : ¬ argument.isNull = true := by simp [null]
          rw [argumentMembers, if_neg visible, ih, List.filter_cons_of_pos (by simp [null]),
            argumentMembers, if_neg visible]
          cases argument.node () with
          | error fault => rfl
          | ok definition =>
              cases argumentMembers (rest.filter (!·.isNull)) with
              | error fault => rfl
              | ok members =>
                  simp only [Except.map, Error.ok_bind, List.any_cons, null, Bool.false_or]

section

variable {builder : Builder} {field context : Text} {inline : Bool}
  {quoted : Text → Except Error Definition} {expr : Expr}

@[simp] theorem isNull_none : isNull (.constant .none) = true := rfl

theorem isNull_of_isUnion (union : expr.isUnion = true) : isNull expr = false := by
  cases expr with
  | constant value => cases union
  | _ => rfl

theorem isNull_of_not_isTypeForm (form : expr.isTypeForm = false) : isNull expr = false := by
  cases expr with
  | constant value =>
      cases value with
      | none => cases form
      | _ => rfl
  | _ => rfl

theorem isUnion_of_not_isTypeForm (form : expr.isTypeForm = false) : expr.isUnion = false := by
  cases expr with
  | binary op left right =>
      cases op with
      | bitOr => cases form
      | _ => rfl
  | _ => rfl

/-- Whatever is no union has itself for its only alternative. -/
theorem members_eq_node (visible : isNull expr = false) (noUnion : expr.isUnion = false) :
    builder.members field context inline quoted expr =
      builder.node field context inline quoted expr >>= single := by
  have alone : IsSingle (builder.members field context inline quoted expr) :=
    isSingle_members visible noUnion
  rw [node, combine_eq, visible, noUnion]
  cases outcome : builder.members field context inline quoted expr with
  | error fault => rfl
  | ok found =>
      obtain ⟨definition, rfl⟩ := alone found outcome
      rfl

theorem members_eq_argumentMembers (expr : Expr) :
    builder.members field context inline quoted expr =
      argumentMembers (expr.leaves.map (builder.argument field context inline quoted)) := by
  have leaf {expr : Expr} (visible : isNull expr = false) (noUnion : expr.isUnion = false) :
      builder.members field context inline quoted expr =
        argumentMembers (expr.leaves.map (builder.argument field context inline quoted)) := by
    rw [members_eq_node visible noUnion, Expr.leaves_of_not_isUnion noUnion, List.map_singleton,
      argumentMembers, if_neg (by simp [argument, visible])]
    rfl
  induction expr using Expr.typeInduction with
  | null => rfl
  | quotation | name | dotted | subscript => exact leaf rfl rfl
  | alternatives left right inLeft inRight =>
      rw [members, inLeft, inRight, Expr.leaves, List.map_append, argumentMembers_append]
  | other expr form => exact leaf (isNull_of_not_isTypeForm form) (isUnion_of_not_isTypeForm form)

/-! ### The definition of a union -/

/-- The definition of a union that has the arguments for its members. -/
def united (arguments : List Argument) : Except Error Definition :=
  (argumentMembers arguments).map fun (nodes, nullable) => withNull nullable (alternatives nodes)

theorem withNull_withNull (nullable : Bool) (definition : Definition) :
    withNull true (withNull nullable definition) = withNull true definition := by
  cases nullable with
  | true => rfl
  | false => rfl

/-- The null constants of a union only make it nullable. -/
theorem united_filter (arguments : List Argument) :
    united arguments = (united (arguments.filter (!·.isNull))).map
      (withNull (arguments.any (·.isNull))) := by
  rw [united, united, argumentMembers_filter arguments]
  have visible := argumentMembers_filter (arguments.filter (!·.isNull))
  simp only [List.filter_filter, Bool.and_self, List.any_filter, Bool.not_and_self] at visible
  cases outcome : argumentMembers (arguments.filter (!·.isNull)) with
  | error fault => rfl
  | ok members =>
      rw [outcome] at visible
      have none : members.2 = false :=
        (congrArg (·.2) (Except.ok.inj visible)).trans (by simp)
      simp only [Error.map_ok, none, withNull, Bool.false_eq_true, ↓reduceIte]

theorem united_map_filter (exprs : List Expr) :
    united (exprs.map (builder.argument field context inline quoted)) =
      (united ((exprs.filter (!isNull ·)).map
        (builder.argument field context inline quoted))).map (withNull (exprs.any isNull)) := by
  rw [united_filter, List.filter_map, List.any_map]
  rfl

theorem united_of_null {exprs others : List Expr}
    (same : exprs.filter (!isNull ·) = others.filter (!isNull ·))
    (null : exprs.any isNull = true) :
    united (exprs.map (builder.argument field context inline quoted)) =
      (united (others.map (builder.argument field context inline quoted))).map
        (withNull true) := by
  rw [united_map_filter exprs, united_map_filter others, same, null]
  cases united ((others.filter (!isNull ·)).map
    (builder.argument field context inline quoted)) with
  | error fault => rfl
  | ok definition => simp only [Error.map_ok, withNull_withNull]

theorem united_single {argument : Argument} (visible : argument.isNull = false) :
    united [argument] = argument.node () := by
  rw [united, argumentMembers, if_neg (by simp [visible])]
  cases argument.node () with
  | error fault => rfl
  | ok definition => rfl

theorem node_eq_united (visible : isNull expr = false) (fits : unionLinks expr ≤ chainLimit) :
    builder.node field context inline quoted expr =
      united (expr.leaves.map (builder.argument field context inline quoted)) := by
  cases union : expr.isUnion with
  | true =>
      rw [node, combine_eq, visible, union, members_eq_argumentMembers, united]
      simp [Nat.not_lt.mpr fits]
  | false =>
      rw [Expr.leaves_of_not_isUnion union, List.map_singleton, united_single visible]
      rfl

variable {base : Expr}

theorem node_subscript (index : Expr) :
    builder.node field context inline quoted (.subscript base index) =
      (applied field (.subscript base index) base
        (index.argumentsOf.map (builder.argument field context inline quoted))).map
          fun (nodes, _) => alternatives nodes := by
  rw [← members_subscript]
  rfl

theorem node_union (index : Expr) (union : generic? base = .ok (some .union)) :
    builder.node field context inline quoted (.subscript base index) =
      united (index.argumentsOf.map (builder.argument field context inline quoted)) := by
  rw [node_subscript, applied, union, Error.ok_bind, united]
  cases argumentMembers (index.argumentsOf.map (builder.argument field context inline quoted)) with
  | error fault => rfl
  | ok members => rfl

theorem node_optional (index : Expr) (optional : generic? base = .ok (some .optional)) :
    builder.node field context inline quoted (.subscript base index) =
      (firstNode (index.argumentsOf.map (builder.argument field context inline quoted))).map
        (withNull true) := by
  rw [node_subscript, applied, optional, Error.ok_bind]
  cases firstNode (index.argumentsOf.map (builder.argument field context inline quoted)) with
  | error fault => rfl
  | ok definition => rfl

/-! ### Unions that are built -/

/-- The expressions that a union has for its members. -/
inductive Unites : Expr → List Expr → Prop
  | chain {expr : Expr} (union : expr.isUnion = true) : Unites expr expr.leaves
  | listed {base : Expr} (index : Expr) (union : generic? base = .ok (some .union)) :
      Unites (.subscript base index) index.argumentsOf

/-- The members other than null have definitions, in order. -/
theorem forall₂_of_argumentMembers {exprs : List Expr} {nodes : List Definition}
    {nullable : Bool}
    (built : argumentMembers (exprs.map (builder.argument field context inline quoted)) =
      .ok (nodes, nullable)) :
    List.Forall₂ (fun expr node => builder.node field context inline quoted expr = .ok node)
      (exprs.filter (!isNull ·)) nodes := by
  induction exprs generalizing nodes nullable with
  | nil =>
      cases built
      exact .nil
  | cons expr rest ih =>
      rw [List.map_cons, argumentMembers] at built
      split at built
      · next null =>
          have null : isNull expr = true := null
          obtain ⟨members, others, built⟩ := Error.bind_eq_ok.mp built
          cases built
          rw [List.filter_cons_of_neg (by simp [null])]
          exact ih others
      · next visible =>
          have visible : ¬ isNull expr = true := visible
          obtain ⟨first, hasNode, built⟩ := Error.bind_eq_ok.mp built
          obtain ⟨members, others, built⟩ := Error.bind_eq_ok.mp built
          cases built
          rw [List.filter_cons_of_pos (by simpa using visible)]
          exact .cons hasNode (ih others)

theorem fits_of_node {expr : Expr} {definition : Definition} (union : expr.isUnion = true)
    (built : builder.node field context inline quoted expr = .ok definition) :
    unionLinks expr ≤ chainLimit := by
  rw [node, combine_eq, isNull_of_isUnion union, union] at built
  by_contra exceeds
  simp [Nat.lt_of_not_le exceeds] at built

theorem united_of_node {expr : Expr} {members : List Expr} {definition : Definition}
    (unites : Unites expr members)
    (built : builder.node field context inline quoted expr = .ok definition) :
    united (members.map (builder.argument field context inline quoted)) = .ok definition := by
  cases unites with
  | chain union =>
      rw [← built, node_eq_united (isNull_of_isUnion union) (fits_of_node union built)]
  | listed index union => rw [← built, node_union index union]

theorem firstNode_map_eq_ok {exprs : List Expr} {definition : Definition}
    (built : firstNode (exprs.map (builder.argument field context inline quoted)) =
      .ok definition) :
    ∃ first others, exprs = first :: others ∧
      builder.node field context inline quoted first = .ok definition := by
  cases exprs with
  | nil => cases built
  | cons first others => exact ⟨first, others, rfl, built⟩

theorem node_optional_eq_ok {index : Expr} {definition : Definition}
    (optional : generic? base = .ok (some .optional))
    (built : builder.node field context inline quoted (.subscript base index) = .ok definition) :
    ∃ first others node, index.argumentsOf = first :: others ∧
      builder.node field context inline quoted first = .ok node ∧
      withNull true node = definition := by
  rw [node_optional index optional] at built
  obtain ⟨node, found, same⟩ := Error.map_eq_ok.mp built
  obtain ⟨first, others, split, hasNode⟩ := firstNode_map_eq_ok found
  exact ⟨first, others, node, split, hasNode, same⟩

theorem build_eq [Dialect] (expr : Expr) :
    builder.build field expr context inline =
      match builder.node field context inline (builder.quotedAt field context inline none) expr with
      | .error (.tooDeep _) => .error (.comment ⟨.nodeTooDeep field, field, none⟩)
      | outcome => outcome := rfl

theorem build_congr [Dialect] {expr other : Expr}
    (same : builder.node field context inline (builder.quotedAt field context inline none) expr =
      builder.node field context inline (builder.quotedAt field context inline none) other) :
    builder.build field expr context inline = builder.build field other context inline := by
  rw [build_eq, build_eq, same]

theorem build_eq_comment [Dialect] {fault : CommentError}
    (refused : builder.node field context inline (builder.quotedAt field context inline none) expr =
      .error (.comment fault)) :
    builder.build field expr context inline = .error (.comment fault) := by
  rw [build_eq, refused]

/-! ### The spellings -/

/-- A chain is built from its members other than null, in order, and from whether one of them
is null. -/
theorem node_chain_congr {other : Expr} (union : expr.isUnion = true)
    (otherUnion : other.isUnion = true) (fits : unionLinks expr ≤ chainLimit)
    (otherFits : unionLinks other ≤ chainLimit)
    (same : expr.leaves.filter (!isNull ·) = other.leaves.filter (!isNull ·))
    (null : expr.leaves.any isNull = other.leaves.any isNull) :
    builder.node field context inline quoted expr =
      builder.node field context inline quoted other := by
  rw [node_eq_united (isNull_of_isUnion union) fits,
    node_eq_united (isNull_of_isUnion otherUnion) otherFits, united_map_filter expr.leaves,
    united_map_filter other.leaves, same, null]

theorem node_listed {first second : Expr} {rest : List Expr}
    (noUnion : ∀ expr ∈ first :: second :: rest, expr.isUnion = false)
    (fits : rest.length < chainLimit) (union : generic? base = .ok (some .union)) :
    builder.node field context inline quoted
        (.subscript base (.tuple (first :: second :: rest))) =
      builder.node field context inline quoted (first.chain (second :: rest)) := by
  rw [List.forall_mem_cons] at noUnion
  have links := unionLinks_chain first noUnion.2
  rw [unionLinks_eq_zero noUnion.1, List.length_cons] at links
  rw [node_union _ union, node_eq_united (isNull_of_isUnion (Expr.isUnion_chain first second rest))
    (by omega), Expr.leaves_chain first noUnion.2, Expr.leaves_of_not_isUnion noUnion.1]
  rfl

theorem node_null_right (visible : isNull expr = false) (fits : unionLinks expr < chainLimit) :
    builder.node field context inline quoted (.binary .bitOr expr (.constant .none)) =
      (builder.node field context inline quoted expr).map (withNull true) := by
  have links : unionLinks (.binary .bitOr expr (.constant .none)) = unionLinks expr + 1 := by
    simp [unionLinks]
  rw [node_eq_united rfl (by omega), node_eq_united visible (by omega)]
  exact united_of_null (by simp [Expr.leaves]) (by simp [Expr.leaves])

theorem node_null_left (visible : isNull expr = false) (fits : unionLinks expr < chainLimit) :
    builder.node field context inline quoted (.binary .bitOr (.constant .none) expr) =
      (builder.node field context inline quoted expr).map (withNull true) := by
  have links : unionLinks (.binary .bitOr (.constant .none) expr) = unionLinks expr + 1 := by
    simp [unionLinks]
  rw [node_eq_united rfl (by omega), node_eq_united visible (by omega)]
  exact united_of_null (by simp [Expr.leaves]) (by simp [Expr.leaves])

theorem node_union_null (visible : isNull expr = false)
    (union : generic? base = .ok (some .union)) :
    builder.node field context inline quoted (.subscript base (.tuple [expr, .constant .none])) =
      (builder.node field context inline quoted expr).map (withNull true) := by
  have alone : united ([expr].map (builder.argument field context inline quoted)) =
      builder.node field context inline quoted expr := united_single visible
  rw [node_union _ union, ← alone]
  exact united_of_null (by simp [Expr.argumentsOf, visible]) (by simp [Expr.argumentsOf])

theorem node_optional_sole (sole : expr.isTuple = false)
    (optional : generic? base = .ok (some .optional)) :
    builder.node field context inline quoted (.subscript base expr) =
      (builder.node field context inline quoted expr).map (withNull true) := by
  rw [node_optional _ optional, Expr.argumentsOf_of_not_isTuple sole]
  rfl

end

/-- However a union is spelled, it is built alike, whether it is built or refused.  Chains are
built alike where they have the same members other than null, in order, and both have null or
neither has; the arguments of a union are built like the chain of them; and there are four ways
to make a type nullable, of which only the optional type cannot take a tuple, whose elements
would be its arguments. -/
theorem build_union_spelled [Dialect] (builder : Builder) (field context : Text) (inline : Bool) :
    let built (expr : Expr) := builder.build field expr context inline
    (∀ expr other : Expr, expr.isUnion = true → other.isUnion = true →
      unionLinks expr ≤ chainLimit → unionLinks other ≤ chainLimit →
      expr.leaves.filter (!isNull ·) = other.leaves.filter (!isNull ·) →
      expr.leaves.any isNull = other.leaves.any isNull → built expr = built other) ∧
    (∀ (union first second : Expr) (rest : List Expr), generic? union = .ok (some .union) →
      (∀ expr ∈ first :: second :: rest, expr.isUnion = false) → rest.length < chainLimit →
      built (.subscript union (.tuple (first :: second :: rest))) =
        built (first.chain (second :: rest))) ∧
    ∀ expr : Expr, isNull expr = false → unionLinks expr < chainLimit →
      let nullable := built (.binary .bitOr expr (.constant .none))
      built (.binary .bitOr (.constant .none) expr) = nullable ∧
        (∀ union, generic? union = .ok (some .union) →
          built (.subscript union (.tuple [expr, .constant .none])) = nullable) ∧
        ∀ optional, generic? optional = .ok (some .optional) → expr.isTuple = false →
          built (.subscript optional expr) = nullable := by
  refine ⟨?_, ?_, ?_⟩
  · intro expr other union otherUnion fits otherFits same null
    exact build_congr (node_chain_congr union otherUnion fits otherFits same null)
  · intro union first second rest named noUnion fits
    exact build_congr (node_listed noUnion fits named)
  · intro expr visible fits
    refine ⟨?_, ?_, ?_⟩
    · exact build_congr ((node_null_left visible fits).trans (node_null_right visible fits).symm)
    · intro union named
      exact build_congr ((node_union_null visible named).trans (node_null_right visible fits).symm)
    · intro optional named sole
      exact build_congr ((node_optional_sole sole named).trans (node_null_right visible fits).symm)

/-- So `int | None | Type` is spelled in several ways. -/
theorem build_union_spelled_mixed :
    let built (expr : Expr) := ({} : Builder).build "field".toList expr "pkg".toList false
    let int := Expr.name "int".toList
    let type := Expr.name "Type".toList
    let null := Expr.constant .none
    let chain := Expr.binary .bitOr (.binary .bitOr int null) type
    let shuffled := Expr.binary .bitOr null (.binary .bitOr int (.binary .bitOr type null))
    let union := Expr.attribute (.name "typing".toList) "Union".toList
    let optional := Expr.attribute (.name "typing".toList) "Optional".toList
    let integer : Definition := { type := some "integer".toList }
    let reference : Definition := { ref := some "#/definitions/pkg.Type".toList }
    built chain = .ok { oneOf := [integer, reference], nullable := some true } ∧
      (shuffled.isUnion = true ∧ chain.isUnion = true ∧ unionLinks shuffled ≤ chainLimit ∧
        unionLinks chain ≤ chainLimit ∧
        shuffled.leaves.filter (!isNull ·) = chain.leaves.filter (!isNull ·) ∧
        shuffled.leaves.any isNull = chain.leaves.any isNull ∧ built shuffled = built chain) ∧
      (generic? union = .ok (some .union) ∧
        (∀ expr ∈ [int, null, type], expr.isUnion = false) ∧ [type].length < chainLimit ∧
        built (.subscript union (.tuple [int, null, type])) = built chain) ∧
      isNull chain = false ∧ unionLinks chain < chainLimit ∧
        generic? optional = .ok (some .optional) ∧ chain.isTuple = false ∧
        built (.binary .bitOr null chain) = built (.binary .bitOr chain null) ∧
        built (.subscript union (.tuple [chain, null])) = built (.binary .bitOr chain null) ∧
        built (.subscript optional chain) = built (.binary .bitOr chain null) := by
  intro built int type null chain shuffled union optional integer reference
  have spelled := build_union_spelled {} "field".toList "pkg".toList false
  have fits : unionLinks shuffled ≤ chainLimit ∧ unionLinks chain < chainLimit := by decide
  have named : generic? union = .ok (some .union) ∧ generic? optional = .ok (some .optional) :=
    ⟨rfl, rfl⟩
  have noUnion : ∀ expr ∈ [int, null, type], expr.isUnion = false := by
    simp [int, null, type, Expr.isUnion]
  have nullable := spelled.2.2 chain rfl fits.2
  exact ⟨rfl,
    ⟨rfl, rfl, fits.1, fits.2.le, rfl, rfl,
      spelled.1 shuffled chain rfl rfl fits.1 fits.2.le rfl rfl⟩,
    ⟨named.1, noUnion, by decide,
      spelled.2.1 union int null [type] named.1 noUnion (by decide)⟩,
    rfl, fits.2, named.2, rfl, nullable.1, nullable.2.1 union named.1,
    nullable.2.2 optional named.2 rfl⟩

/-- A tuple is no type, but between the brackets of an optional type it is its arguments. -/
theorem build_optionalTuple :
    let built (expr : Expr) := ({} : Builder).build "field".toList expr [] false
    let null := Expr.constant .none
    let tuple := Expr.tuple [.name "int".toList, .name "str".toList]
    let unsupported : Error :=
      .comment ⟨.typeUnsupported "(int, str)".toList, "field".toList, some "(int, str)".toList⟩
    isNull tuple = false ∧
      built (.subscript (.name "Optional".toList) tuple) =
        .ok { type := some "integer".toList, nullable := some true } ∧
      built (.binary .bitOr tuple null) = .error unsupported ∧
      built (.binary .bitOr null tuple) = .error unsupported ∧
      built (.subscript (.name "Union".toList) (.tuple [tuple, null])) = .error unsupported := by
  intro built null tuple unsupported
  have shown : TypeExpr.print tuple = .ok "(int, str)".toList := by cbv
  have refused (quoted : Text → Except Error Definition) :
      ({} : Builder).node "field".toList [] false quoted tuple = .error unsupported := by
    have same : refuse .typeUnsupported "field".toList tuple = unsupported := by rw [refuse, shown]
    rw [← same]
    rfl
  refine ⟨rfl, rfl, build_eq_comment ?_, build_eq_comment ?_, build_eq_comment ?_⟩
  · rw [node_null_right rfl (by decide), refused]
    rfl
  · rw [node_null_left rfl (by decide), refused]
    rfl
  · rw [node_union_null rfl rfl, refused]
    rfl

end Builder

end CommentSchema
