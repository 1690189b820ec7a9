import CommentSchema.Proofs.Breakage
import CommentSchema.Proofs.Expr.Quotation

/-! A type may be quoted.  A quoted text is read once the builder gets to it, and as what it
quotes is always shorter, it is then built like the type itself.  Quoting a type thus changes
nothing where it stands, unless the type is one that a union has to see unquoted: a null
constant among its members, or alternatives between alternatives. -/

namespace CommentSchema

namespace Expr

theorem mem_stringsOfList {exprs : List Expr} {points : List CodePoint} :
    points ∈ stringsOfList exprs ↔ ∃ expr ∈ exprs, points ∈ expr.strings := by
  induction exprs with
  | nil => simp [stringsOfList]
  | cons expr rest ih => simp [stringsOfList, ih]

theorem mem_strings_of_mem_argumentsOf {index argument : Expr} {points : List CodePoint}
    (member : argument ∈ argumentsOf index) (quoted : points ∈ argument.strings) :
    points ∈ index.strings := by
  unfold argumentsOf at member
  split at member
  · rw [strings]
    exact mem_stringsOfList.mpr ⟨argument, member, quoted⟩
  · rwa [← List.mem_singleton.mp member]

def isUnion : Expr → Bool
  | .binary .bitOr _ _ => true
  | _ => false

def isTuple : Expr → Bool
  | .tuple _ => true
  | _ => false

theorem argumentsOf_of_not_isTuple {index : Expr} (sole : index.isTuple = false) :
    argumentsOf index = [index] := by
  cases index with
  | tuple elements => cases sole
  | _ => rfl

end Expr

namespace Builder

variable {builder : Builder} {field context : Text} {inline : Bool}

/-! ### Quoted texts -/

section

variable {quoted quoted' : Text → Except Error Definition}

/-- Building looks up no other quoted texts than those of the expression. -/
theorem members_congr (expr : Expr)
    (agree : ∀ text : Text, text.map .char ∈ expr.strings → quoted text = quoted' text) :
    builder.members field context inline quoted expr =
      builder.members field context inline quoted' expr := by
  induction expr using Expr.typeInduction with
  | null | name | dotted => simp only [members]
  | quotation text marked =>
      have same := agree text (by simp [Expr.strings])
      simp only [members, same]
  | subscript base index inArguments =>
      rw [members_subscript, members_subscript]
      congr 1
      refine List.map_congr_left fun argument member => ?_
      have inside := inArguments argument member fun text quotes =>
        agree text (by rw [Expr.strings]; exact Expr.mem_strings_of_mem_argumentsOf member quotes)
      simp only [Builder.argument, node, inside]
  | alternatives left right inLeft inRight =>
      simp only [Expr.strings, List.mem_append] at agree
      rw [members, members, inLeft fun text quotes => agree text (.inl quotes),
        inRight fun text quotes => agree text (.inr quotes)]
  | other expr form =>
      rw [members_of_not_isTypeForm _ _ _ _ _ form, members_of_not_isTypeForm _ _ _ _ _ form]

theorem node_congr (expr : Expr)
    (agree : ∀ text : Text, text.map .char ∈ expr.strings → quoted text = quoted' text) :
    builder.node field context inline quoted expr =
      builder.node field context inline quoted' expr := by
  rw [node, node, members_congr expr agree]

end

/-- Quotations never nest too deep where they may nest as often as the text has characters. -/
theorem quotedNode_of_length_le [Dialect] {depth : Nat} {text : Text} (fits : text.length ≤ depth) :
    builder.quotedNode field context inline depth text =
      TypeExpr.parse text >>= builder.node field context inline
        (builder.quotedAt field context inline none) := by
  induction length : text.length using Nat.strongRecOn generalizing text depth with
  | ind _ shorter =>
      subst length
      rw [quotedNode_eq]
      cases parsed : TypeExpr.parse text with
      | error fault => rfl
      | ok expr =>
          refine node_congr expr fun inner quotes => ?_
          have shorterInside := TypeExpr.shorter_parse parsed _ quotes
          rw [List.length_map] at shorterInside
          have less : inner.length < text.length := by omega
          cases depth with
          | zero => omega
          | succ depth =>
              rw [quotedAt, quotedAt, shorter _ less (by omega) rfl,
                shorter _ less (Nat.le_refl _) rfl]

theorem quotedAt_none [Dialect] (text : Text) :
    builder.quotedAt field context inline none text =
      TypeExpr.parse text >>= builder.node field context inline
        (builder.quotedAt field context inline none) :=
  quotedNode_of_length_le (Nat.le_refl _)

theorem build_eq_ok [Dialect] {expr : Expr} {definition : Definition} :
    builder.build field expr context inline = .ok definition ↔
      builder.node field context inline (builder.quotedAt field context inline none) expr =
        .ok definition := by
  have outermost : (fun text => builder.quotedNode field context inline text.length text) =
      builder.quotedAt field context inline none := rfl
  rw [build, outermost]
  split
  · next same => simp [same]
  · rfl

/-! ### Places -/

/-- What stands right around an expression in which it is an alternative or an argument. -/
inductive Frame where
  | left (other : Expr)
  | right (other : Expr)
  | argument (base : Expr)
  | element (base : Expr) (before after : List Expr)

namespace Frame

def fill : Frame → Expr → Expr
  | left other, expr => .binary .bitOr expr other
  | right other, expr => .binary .bitOr other expr
  | argument base, expr => .subscript base expr
  | element base before after, expr => .subscript base (.tuple (before ++ expr :: after))

/-- No union looks at the expression before it is built. -/
def Takes (expr : Expr) : Frame → Prop
  | left _ | right _ => isNull expr = false ∧ expr.isUnion = false
  | argument base =>
      expr.isTuple = false ∧ (generic? base = .ok (some .union) → isNull expr = false)
  | element base _ _ => generic? base = .ok (some .union) → isNull expr = false

end Frame

/-- The frames around an expression, the outermost first. -/
abbrev Place := List Frame

def Place.fill (place : Place) (expr : Expr) : Expr := place.foldr Frame.fill expr

theorem Place.fill_concat (outer : Place) (frame : Frame) (expr : Expr) :
    Place.fill (outer ++ [frame]) expr = outer.fill (frame.fill expr) := by
  simp [Place.fill, List.foldr_append]

def Place.Takes (place : Place) (expr : Expr) : Prop :=
  ∀ frame ∈ place.getLast?, frame.Takes expr

section

variable {quoted : Text → Except Error Definition}

/-- Wherever the one expression has a node, the other one has it too. -/
def Follows (builder : Builder) (field context : Text) (inline : Bool)
    (quoted : Text → Except Error Definition) (expr other : Expr) : Prop :=
  ∀ node, builder.node field context inline quoted expr = .ok node →
    builder.node field context inline quoted other = .ok node

/-- The other expression looks the same to a union, and it has the same alternatives.  Neither
is a list of arguments. -/
structure StandsFor (builder : Builder) (field context : Text) (inline : Bool)
    (quoted : Text → Except Error Definition) (expr other : Expr) : Prop where
  null : isNull other = isNull expr
  union : other.isUnion = expr.isUnion
  links : unionLinks other = unionLinks expr
  sole : expr.isTuple = false ∧ other.isTuple = false
  members : ∀ members, builder.members field context inline quoted expr = .ok members →
    builder.members field context inline quoted other = .ok members

theorem combine_eq (expr : Expr) (members : Except Error Members) :
    combine expr members =
      if isNull expr then .ok { type := some "null".toList }
      else if expr.isUnion && unionLinks expr > chainLimit then .error .depthExceeded
      else members.map fun (nodes, nullable) =>
        withNull (expr.isUnion && nullable) (alternatives nodes) := by
  cases expr with
  | constant value =>
      cases value with
      | none => rfl
      | _ => simp [combine, isNull, Expr.isUnion, withNull]
  | binary op left right =>
      cases op with
      | bitOr => simp [combine, isNull, Expr.isUnion]
      | _ => simp [combine, isNull, Expr.isUnion, withNull]
  | _ => simp [combine, isNull, Expr.isUnion, withNull]

theorem StandsFor.follows {expr other : Expr}
    (stands : builder.StandsFor field context inline quoted expr other) :
    builder.Follows field context inline quoted expr other := by
  intro definition built
  rw [node, combine_eq] at built ⊢
  rw [stands.null, stands.union, stands.links]
  cases outcome : builder.members field context inline quoted expr with
  | ok members =>
      rw [stands.members members outcome]
      rwa [outcome] at built
  | error fault =>
      rw [outcome] at built
      split at built
      · next null => simpa [null] using built
      · split at built
        · cases built
        · cases built

theorem unionLinks_eq_zero {expr : Expr} (noUnion : expr.isUnion = false) :
    unionLinks expr = 0 := by
  cases expr with
  | binary op left right =>
      cases op with
      | bitOr => cases noUnion
      | _ => rfl
  | _ => rfl

/-- Nothing but unions has several alternatives. -/
def IsSingle (outcome : Except Error Members) : Prop :=
  ∀ members, outcome = .ok members → ∃ definition, members = ([definition], false)

theorem isSingle_error (error : Error) : IsSingle (.error error) := by
  intro members same
  cases same

theorem isSingle_bind {outcome : Except Error α} {next : α → Except Error Members}
    (single : ∀ value, IsSingle (next value)) : IsSingle (outcome >>= next) := by
  cases outcome with
  | error fault => exact isSingle_error _
  | ok value => exact single value

theorem isSingle_single (definition : Definition) : IsSingle (single definition) := by
  intro members same
  cases same
  exact ⟨definition, rfl⟩

theorem isSingle_applied {expr base : Expr} {arguments : List Argument} :
    IsSingle (applied field expr base arguments) := by
  refine isSingle_bind fun generic => ?_
  match generic with
  | some .array | some .optional | some .union =>
      exact isSingle_bind fun found => isSingle_single _
  | some .mapping =>
      match arguments with
      | [_, _] => exact isSingle_bind fun found => isSingle_single _
      | [] | [_] | _ :: _ :: _ :: _ => exact isSingle_error _
  | none => exact isSingle_error _

theorem isSingle_members {expr : Expr} (visible : isNull expr = false)
    (noUnion : expr.isUnion = false) :
    IsSingle (builder.members field context inline quoted expr) := by
  induction expr using Expr.typeInduction with
  | null => cases visible
  | quotation text marked => exact isSingle_bind fun found => isSingle_single _
  | name id => exact isSingle_single _
  | dotted value attr =>
      rw [members]
      refine isSingle_bind fun dotted => ?_
      cases dotted with
      | some dotted => exact isSingle_single _
      | none => exact isSingle_error _
  | subscript base index =>
      rw [members_subscript]
      exact isSingle_applied
  | alternatives left right => cases noUnion
  | other expr form =>
      rw [members_of_not_isTypeForm _ _ _ _ _ form]
      exact isSingle_error _

theorem members_eq_ok_iff {expr : Expr} {found : Members} (visible : isNull expr = false)
    (noUnion : expr.isUnion = false) :
    builder.members field context inline quoted expr = .ok found ↔
      ∃ definition, builder.node field context inline quoted expr = .ok definition ∧
        found = ([definition], false) := by
  rw [node, combine_eq, visible, noUnion]
  constructor
  · intro built
    obtain ⟨definition, rfl⟩ := isSingle_members visible noUnion found built
    exact ⟨definition, by rw [built]; rfl, rfl⟩
  · rintro ⟨definition, built, rfl⟩
    cases outcome : builder.members field context inline quoted expr with
    | error fault =>
        rw [outcome] at built
        cases built
    | ok members =>
        obtain ⟨single, rfl⟩ := isSingle_members visible noUnion members outcome
        rw [outcome] at built
        cases built
        rfl

/-! ### Arguments -/

/-- An argument of a base may be taken for another one: it has its node, and the members of a
union look the same. -/
structure Yields (base : Expr) (argument other : Argument) : Prop where
  node : ∀ definition, argument.node () = .ok definition → other.node () = .ok definition
  null : generic? base = .ok (some .union) → other.isNull = argument.isNull

variable {base : Expr} {arguments others : List Argument}

theorem yields_refl (argument : Argument) : Yields base argument argument :=
  ⟨fun _ built => built, fun _ => rfl⟩

theorem firstNode_eq_ok {definition : Definition}
    (yields : List.Forall₂ (Yields base) arguments others)
    (built : firstNode arguments = .ok definition) : firstNode others = .ok definition := by
  cases yields with
  | nil => cases built
  | cons first rest => exact first.node definition built

theorem mapped_eq_ok {expr expr' : Expr} {found : Members}
    (yields : List.Forall₂ (Yields base) arguments others)
    (built : mapped field expr arguments = .ok found) : mapped field expr' others = .ok found := by
  match arguments, yields with
  | [_, value], .cons _ (.cons yieldsValue .nil) =>
      obtain ⟨definition, hasNode, built⟩ := Error.bind_eq_ok.mp built
      exact Error.bind_eq_ok.mpr ⟨definition, yieldsValue.node definition hasNode, built⟩
  | [], _ | [_], _ | _ :: _ :: _ :: _, _ => cases built

theorem argumentMembers_eq_ok {found : Members} (union : generic? base = .ok (some .union))
    (yields : List.Forall₂ (Yields base) arguments others)
    (built : argumentMembers arguments = .ok found) : argumentMembers others = .ok found := by
  induction yields generalizing found with
  | nil => exact built
  | cons first rest ih =>
      rw [argumentMembers] at built ⊢
      rw [first.null union]
      split at built
      · next null =>
          obtain ⟨members, hasMembers, built⟩ := Error.bind_eq_ok.mp built
          rw [if_pos null]
          exact Error.bind_eq_ok.mpr ⟨members, ih hasMembers, built⟩
      · next visible =>
          obtain ⟨definition, hasNode, built⟩ := Error.bind_eq_ok.mp built
          obtain ⟨members, hasMembers, built⟩ := Error.bind_eq_ok.mp built
          rw [if_neg visible]
          exact Error.bind_eq_ok.mpr ⟨definition, first.node definition hasNode,
            Error.bind_eq_ok.mpr ⟨members, ih hasMembers, built⟩⟩

theorem applied_eq_ok {expr expr' : Expr} {found : Members}
    (yields : List.Forall₂ (Yields base) arguments others)
    (built : applied field expr base arguments = .ok found) :
    applied field expr' base others = .ok found := by
  unfold applied at built ⊢
  obtain ⟨generic, named, built⟩ := Error.bind_eq_ok.mp built
  refine Error.bind_eq_ok.mpr ⟨generic, named, ?_⟩
  match generic with
  | some .array | some .optional =>
      obtain ⟨first, hasFirst, built⟩ := Error.bind_eq_ok.mp built
      exact Error.bind_eq_ok.mpr ⟨first, firstNode_eq_ok yields hasFirst, built⟩
  | some .mapping => exact mapped_eq_ok yields built
  | some .union =>
      obtain ⟨members, hasMembers, built⟩ := Error.bind_eq_ok.mp built
      exact Error.bind_eq_ok.mpr ⟨members, argumentMembers_eq_ok named yields hasMembers, built⟩
  | none => cases built

/-! ### Frames -/

theorem joined_eq_ok {left right left' right' : Except Error Members} {found : Members}
    (inLeft : ∀ members, left = .ok members → left' = .ok members)
    (inRight : ∀ members, right = .ok members → right' = .ok members)
    (built : joined left right = .ok found) : joined left' right' = .ok found := by
  obtain ⟨first, hasFirst, built⟩ := Error.bind_eq_ok.mp built
  obtain ⟨second, hasSecond, built⟩ := Error.bind_eq_ok.mp built
  exact Error.bind_eq_ok.mpr ⟨first, inLeft first hasFirst,
    Error.bind_eq_ok.mpr ⟨second, inRight second hasSecond, built⟩⟩

theorem standsFor_subscript {index index' : Expr}
    (yields : List.Forall₂ (Yields base)
      (index.argumentsOf.map (builder.argument field context inline quoted))
      (index'.argumentsOf.map (builder.argument field context inline quoted))) :
    builder.StandsFor field context inline quoted (.subscript base index)
      (.subscript base index') where
  null := rfl
  union := rfl
  links := rfl
  sole := ⟨rfl, rfl⟩
  members found built := by
    rw [members_subscript] at built ⊢
    exact applied_eq_ok yields built

section

variable {expr other : Expr}

theorem yields_argument (follows : builder.Follows field context inline quoted expr other)
    (null : generic? base = .ok (some .union) → isNull other = isNull expr) :
    Yields base (builder.argument field context inline quoted expr)
      (builder.argument field context inline quoted other) :=
  ⟨follows, null⟩

theorem standsFor_argument (sole : expr.isTuple = false ∧ other.isTuple = false)
    (follows : builder.Follows field context inline quoted expr other)
    (null : generic? base = .ok (some .union) → isNull other = isNull expr) :
    builder.StandsFor field context inline quoted ((Frame.argument base).fill expr)
      ((Frame.argument base).fill other) := by
  refine standsFor_subscript ?_
  rw [Expr.argumentsOf_of_not_isTuple sole.1, Expr.argumentsOf_of_not_isTuple sole.2]
  exact .cons (yields_argument follows null) .nil

theorem standsFor_element {before after : List Expr}
    (follows : builder.Follows field context inline quoted expr other)
    (null : generic? base = .ok (some .union) → isNull other = isNull expr) :
    builder.StandsFor field context inline quoted ((Frame.element base before after).fill expr)
      ((Frame.element base before after).fill other) := by
  refine standsFor_subscript ?_
  simp only [Expr.argumentsOf, List.map_append, List.map_cons]
  have same (arguments : List Argument) : List.Forall₂ (Yields base) arguments arguments :=
    List.forall₂_same.mpr fun argument _ => yields_refl argument
  exact List.rel_append (same _) (.cons (yields_argument follows null) (same _))

theorem standsFor_left {beside : Expr} (links : unionLinks other = unionLinks expr)
    (members : ∀ members, builder.members field context inline quoted expr = .ok members →
      builder.members field context inline quoted other = .ok members) :
    builder.StandsFor field context inline quoted ((Frame.left beside).fill expr)
      ((Frame.left beside).fill other) where
  null := rfl
  union := rfl
  links := by simp only [Frame.fill, unionLinks, links]
  sole := ⟨rfl, rfl⟩
  members _ built := joined_eq_ok members (fun _ same => same) built

theorem standsFor_right {beside : Expr} (links : unionLinks other = unionLinks expr)
    (members : ∀ members, builder.members field context inline quoted expr = .ok members →
      builder.members field context inline quoted other = .ok members) :
    builder.StandsFor field context inline quoted ((Frame.right beside).fill expr)
      ((Frame.right beside).fill other) where
  null := rfl
  union := rfl
  links := by simp only [Frame.fill, unionLinks, links]
  sole := ⟨rfl, rfl⟩
  members _ built := joined_eq_ok (fun _ same => same) members built

theorem StandsFor.fill (stands : builder.StandsFor field context inline quoted expr other)
    (frame : Frame) :
    builder.StandsFor field context inline quoted (frame.fill expr) (frame.fill other) := by
  cases frame with
  | left beside => exact standsFor_left stands.links stands.members
  | right beside => exact standsFor_right stands.links stands.members
  | argument base =>
      exact standsFor_argument stands.sole stands.follows fun _ => stands.null
  | element base before after => exact standsFor_element stands.follows fun _ => stands.null

theorem StandsFor.fillAll (stands : builder.StandsFor field context inline quoted expr other)
    (place : Place) :
    builder.StandsFor field context inline quoted (place.fill expr) (place.fill other) := by
  induction place with
  | nil => exact stands
  | cons frame inner ih => exact ih.fill frame

/-- A type that no union looks at may be replaced in a frame by any other such type that has its
node. -/
theorem standsFor_of_takes {frame : Frame} (takes : frame.Takes expr) (takes' : frame.Takes other)
    (follows : builder.Follows field context inline quoted expr other) :
    builder.StandsFor field context inline quoted (frame.fill expr) (frame.fill other) := by
  have members (visible : isNull expr = false ∧ expr.isUnion = false)
      (visible' : isNull other = false ∧ other.isUnion = false) (found : Members)
      (built : builder.members field context inline quoted expr = .ok found) :
      builder.members field context inline quoted other = .ok found := by
    obtain ⟨definition, hasNode, rfl⟩ := (members_eq_ok_iff visible.1 visible.2).mp built
    exact (members_eq_ok_iff visible'.1 visible'.2).mpr ⟨definition, follows _ hasNode, rfl⟩
  cases frame with
  | left beside =>
      exact standsFor_left (by rw [unionLinks_eq_zero takes.2, unionLinks_eq_zero takes'.2])
        (members takes takes')
  | right beside =>
      exact standsFor_right (by rw [unionLinks_eq_zero takes.2, unionLinks_eq_zero takes'.2])
        (members takes takes')
  | argument base =>
      exact standsFor_argument ⟨takes.1, takes'.1⟩ follows fun union =>
        (takes'.2 union).trans (takes.2 union).symm
  | element base before after =>
      exact standsFor_element follows fun union => (takes' union).trans (takes union).symm

/-- A type may be replaced in any place that takes it. -/
theorem Follows.fill (follows : builder.Follows field context inline quoted expr other)
    {place : Place} (takes : place.Takes expr) (takes' : place.Takes other) :
    builder.Follows field context inline quoted (place.fill expr) (place.fill other) := by
  induction place using List.reverseRecOn with
  | nil => exact follows
  | append_singleton outer frame =>
      have inner := standsFor_of_takes (takes frame (by simp)) (takes' frame (by simp)) follows
      rw [Place.fill_concat, Place.fill_concat]
      exact (inner.fillAll outer).follows

end

end

theorem Frame.takes_quotation (frame : Frame) (text : Text) (marked : Bool) :
    frame.Takes (.constant (.str text marked)) := by
  cases frame with
  | left | right => exact ⟨rfl, rfl⟩
  | argument => exact ⟨rfl, fun _ => rfl⟩
  | element => exact fun _ => rfl

theorem node_quotation [Dialect] {text : Text} (marked : Bool) :
    builder.node field context inline (builder.quotedAt field context inline none)
      (.constant (.str text marked)) = builder.quotedAt field context inline none text := by
  rw [node, members]
  cases builder.quotedAt field context inline none text with
  | ok node => rfl
  | error fault => rfl

theorem follows_quotation [Dialect] {source : Text} {type : Expr} (marked : Bool)
    (read : TypeExpr.parse source = .ok type) :
    builder.Follows field context inline (builder.quotedAt field context inline none) type
      (.constant (.str source marked)) := by
  intro node hasNode
  rw [node_quotation, quotedAt_none, read]
  exact hasNode

/-- A type is built alike when it is quoted, in any place where no union looks at it before it
is built. -/
theorem build_quoted [Dialect] {source : Text} {type : Expr} {place : Place}
    {definition : Definition} (marked : Bool) (read : TypeExpr.parse source = .ok type)
    (takes : place.Takes type)
    (built : builder.build field (place.fill type) context inline = .ok definition) :
    builder.build field (place.fill (.constant (.str source marked))) context inline =
      .ok definition := by
  rw [build_eq_ok] at built ⊢
  have takesQuotation : place.Takes (.constant (.str source marked)) :=
    fun frame _ => frame.takes_quotation source marked
  exact (follows_quotation marked read).fill takes takesQuotation definition built

/-- In `dict[str, list[int | None] | a.B]` what the list holds may be quoted. -/
theorem build_quoted_listed :
    let source := "int | None".toList
    let type := Expr.binary .bitOr (.name "int".toList) (.constant .none)
    let place : Place := [.element (.name "dict".toList) [.name "str".toList] [],
      .left (.attribute (.name "a".toList) "B".toList), .argument (.name "list".toList)]
    let listed : Definition := { type := some "integer".toList, nullable := some true }
    let definition : Definition :=
      { type := some "object".toList
        additionalProperties := some
          { oneOf := [{ type := some "array".toList, items := some listed },
              { ref := some "#/definitions/a.B".toList }] } }
    TypeExpr.parse source = .ok type ∧ place.Takes type ∧
      ({} : Builder).build [] (place.fill type) [] false = .ok definition ∧
      ({} : Builder).build [] (place.fill (.constant (.str source false))) [] false =
        .ok definition := by
  intro source type place listed definition
  have read : TypeExpr.parse "int | None".toList =
      .ok (.binary .bitOr (.name "int".toList) (.constant .none)) := by cbv
  have takes : place.Takes type := by
    intro frame last
    cases last
    exact ⟨rfl, fun _ => rfl⟩
  have built : ({} : Builder).build [] (place.fill type) [] false = .ok definition := rfl
  exact ⟨read, takes, built, build_quoted false read takes built⟩

theorem quotedAt_of_parse [Dialect] {source : Text} {type : Expr} {definition : Definition}
    (read : TypeExpr.parse source = .ok type)
    (built : builder.node field context inline (builder.quotedAt field context inline none) type =
      .ok definition) :
    builder.quotedAt field context inline none source = .ok definition := by
  rw [quotedAt_none, read]
  exact built

/-- As a member of a union, a quoted null constant is a type like any other, and quoted
alternatives stay a union of their own. -/
theorem build_quotedMembers :
    let builder : Builder := {}
    let int := Expr.name "int".toList
    let str := Expr.name "str".toList
    let bool := Expr.name "bool".toList
    let integer : Definition := { type := some "integer".toList }
    let string : Definition := { type := some "string".toList }
    let boolean : Definition := { type := some "boolean".toList }
    TypeExpr.parse "None".toList = .ok (.constant .none) ∧
      builder.build [] (Place.fill [.right int] (.constant .none)) [] false =
        .ok { integer with nullable := some true } ∧
      builder.build [] (Place.fill [.right int] (.constant (.str "None".toList false))) [] false =
        .ok { oneOf := [integer, { type := some "null".toList }] } ∧
      TypeExpr.parse "int | str".toList = .ok (.binary .bitOr int str) ∧
      builder.build [] (Place.fill [.left bool] (.binary .bitOr int str)) [] false =
        .ok { oneOf := [integer, string, boolean] } ∧
      builder.build [] (Place.fill [.left bool] (.constant (.str "int | str".toList false))) []
        false = .ok { oneOf := [{ oneOf := [integer, string] }, boolean] } := by
  intro builder int str bool integer string boolean
  have null : TypeExpr.parse "None".toList = .ok (.constant .none) := by cbv
  have several : TypeExpr.parse "int | str".toList = .ok (.binary .bitOr int str) := by cbv
  have nullNode : builder.quotedAt [] [] false none "None".toList =
      .ok { type := some "null".toList } := quotedAt_of_parse null rfl
  have severalNode : builder.quotedAt [] [] false none "int | str".toList =
      .ok { oneOf := [integer, string] } := quotedAt_of_parse several rfl
  refine ⟨null, rfl, ?_, several, rfl, ?_⟩
  · rw [build_eq_ok]
    simp only [Place.fill, List.foldr, Frame.fill, Builder.node, members, nullNode]
    rfl
  · rw [build_eq_ok]
    simp only [Place.fill, List.foldr, Frame.fill, Builder.node, members, severalNode]
    rfl

end Builder

end CommentSchema
