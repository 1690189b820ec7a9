import CommentSchema.Proofs.First
import CommentSchema.Proofs.Members

/-! Where the builder breaks instead of refusing.  An expression is refused with an error about
the comment; it breaks the builder where a name is given no arguments at all, where a quotation
cannot be read for its characters or is no text, and where what is refused cannot even be
shown. -/

namespace CommentSchema

namespace Error

/-- Neither about the content of a comment nor about its nesting. -/
def isBreakage : Error → Bool
  | comment _ | tooDeep _ => false
  | _ => true

end Error

def FailsWith (kind : Error → Bool) (outcome : Except Error α) (error : Error) : Prop :=
  outcome = .error error ∧ kind error = true

namespace FailsWith

variable {kind : Error → Bool} {error : Error}

theorem ok_iff {value : α} : FailsWith kind (.ok value) error ↔ False := by
  simp [FailsWith]

theorem error_iff {fault : Error} :
    FailsWith kind (.error fault : Except Error α) error ↔ kind fault = true ∧ error = fault := by
  simp only [FailsWith, Except.error.injEq]
  constructor
  · intro fails
    obtain ⟨rfl, isKind⟩ := fails
    exact ⟨isKind, rfl⟩
  · intro fails
    obtain ⟨isKind, rfl⟩ := fails
    exact ⟨rfl, isKind⟩

theorem bind_iff {outcome : Except Error α} {next : α → Except Error β} :
    FailsWith kind (outcome >>= next) error ↔
      FailsWith kind outcome error ∨
        ∃ value, outcome = .ok value ∧ FailsWith kind (next value) error := by
  cases outcome with
  | ok value => simp [FailsWith, bind, Except.bind]
  | error fault => simp [FailsWith, bind, Except.bind]

theorem map_iff {outcome : Except Error α} {change : α → β} :
    FailsWith kind (outcome.map change) error ↔ FailsWith kind outcome error := by
  cases outcome with
  | ok value => simp [FailsWith, Except.map]
  | error fault => simp [FailsWith, Except.map]

theorem mapError_iff {outcome : Except ε α} {change : ε → Error} :
    FailsWith kind (outcome.mapError change) error ↔
      ∃ fault, outcome = .error fault ∧ kind (change fault) = true ∧ error = change fault := by
  cases outcome with
  | ok value =>
      change FailsWith kind (.ok value) error ↔ _
      simp [ok_iff]
  | error fault =>
      change FailsWith kind (.error (change fault)) error ↔ _
      simp [error_iff]

end FailsWith

namespace Builder

open Error (isBreakage)

/-- An expression that cannot be shown, with the problem it makes. -/
def Unshowable (expr : Expr) (problem : ValueProblem) : Prop :=
  TypeExpr.print expr = .error (.value problem)

theorem breaksWith_refuse {problem : Text → Problem} {field : Text} {expr : Expr}
    {error : Error} :
    FailsWith isBreakage (.error (refuse problem field expr) : Except Error α) error ↔
      ∃ fault, Unshowable expr fault ∧ error = .value fault := by
  unfold refuse Unshowable TypeExpr.print
  rw [FailsWith.error_iff]
  cases expr.print with
  | ok text => simp [isBreakage]
  | error fault =>
      cases fault with
      | tooDeep => simp [Error.depthExceeded, isBreakage]
      | tooManyDigits | backslashInField => simp [isBreakage]

theorem breaksWith_dottedName? {expr : Expr} {error : Error} :
    FailsWith isBreakage (dottedName? expr) error ↔ False := by
  unfold dottedName?
  split
  · simp [FailsWith.error_iff, Error.depthExceeded, isBreakage]
  · exact FailsWith.ok_iff

theorem breaksWith_generic? {base : Expr} {error : Error} :
    FailsWith isBreakage (generic? base) error ↔ False := by
  simp [generic?, FailsWith.bind_iff, breaksWith_dottedName?, FailsWith.ok_iff]

/-- A union with more links than the builder follows. -/
def isOverlong : Expr → Bool
  | .binary .bitOr left right => decide (unionLinks (.binary .bitOr left right) > chainLimit)
  | _ => false

inductive IsRefused : Expr → Prop where
  | other {expr : Expr} (form : expr.isTypeForm = false) (whole : expr.isTorn = false) :
      IsRefused expr
  | undotted {value : Expr} {attr : Text}
      (unnamed : dottedName? (.attribute value attr) = .ok none) :
      IsRefused (.attribute value attr)
  | arity {base index : Expr} (mapping : generic? base = .ok (some .mapping))
      (count : index.argumentsOf.length ≠ 2) : IsRefused (.subscript base index)
  | unknown {base index : Expr} (unknown : generic? base = .ok none) :
      IsRefused (.subscript base index)

/-- The forms that are never refused. -/
def isAccepted : Expr → Bool
  | .constant .none | .constant (.str ..) | .name _ | .binary .bitOr .. => true
  | _ => false

theorem IsRefused.isAccepted_eq_false {expr : Expr} (refused : IsRefused expr) :
    isAccepted expr = false := by
  cases refused with
  | undotted | arity | unknown => rfl
  | other form whole =>
      unfold isAccepted
      split
      · cases form
      · cases form
      · cases form
      · cases form
      · rfl

section

variable {builder : Builder} {field context : Text} {inline : Bool}
  {quoted : Text → Except Error Definition} {error : Error}

theorem breaksWith_node {expr : Expr} :
    FailsWith isBreakage (builder.node field context inline quoted expr) error ↔
      isOverlong expr = false ∧
        FailsWith isBreakage (builder.members field context inline quoted expr) error := by
  unfold node
  cases expr with
  | constant value =>
      cases value with
      | none => simp [combine, members, FailsWith.ok_iff]
      | _ => simp [combine, isOverlong, FailsWith.map_iff]
  | binary op left right =>
      cases op with
      | bitOr =>
          by_cases long : unionLinks (.binary .bitOr left right) > chainLimit
          · simp [combine, isOverlong, long, FailsWith.error_iff, Error.depthExceeded, isBreakage]
          · simp [combine, isOverlong, long, FailsWith.map_iff]
      | _ => simp [combine, isOverlong, FailsWith.map_iff]
  | _ => simp [combine, isOverlong, FailsWith.map_iff]

theorem node_null : builder.node field context inline quoted (.constant .none) =
    .ok { type := some "null".toList } := rfl

theorem eq_null_of_isNull {expr : Expr} (null : isNull expr = true) :
    expr = .constant .none := by
  unfold isNull at null
  split at null
  · rfl
  · cases null

/-- Arguments break as alternatives where one breaks and those before it do not fail. -/
theorem breaksWith_argumentMembers {exprs : List Expr} :
    FailsWith isBreakage (argumentMembers
        (exprs.map (builder.argument field context inline quoted))) error ↔
      Meets (fun expr => ∃ node, builder.node field context inline quoted expr = .ok node)
        (fun expr => FailsWith isBreakage (builder.node field context inline quoted expr) error)
        exprs := by
  induction exprs with
  | nil => simp [argumentMembers, FailsWith.ok_iff, not_meets_nil]
  | cons first rest ih =>
      rw [meets_cons, ← ih]
      cases null : isNull first with
      | true =>
          cases eq_null_of_isNull null
          simp [argumentMembers, argument, isNull, node_null, FailsWith.bind_iff,
            FailsWith.ok_iff]
      | false =>
          simp [argumentMembers, argument, null, FailsWith.bind_iff, FailsWith.ok_iff]

theorem not_breaksWith_typeRefuse {problem : Problem} {text : Text} :
    ¬ FailsWith isBreakage (TypeExpr.refuse problem text) error := by
  simp [TypeExpr.refuse, FailsWith.error_iff, isBreakage]

theorem breaksWith_firstNode {exprs : List Expr} :
    FailsWith isBreakage (firstNode (exprs.map (builder.argument field context inline quoted)))
        error ↔
      (exprs = [] ∧ error = .index) ∨
        ∃ expr others, exprs = expr :: others ∧
          FailsWith isBreakage (builder.node field context inline quoted expr) error := by
  cases exprs with
  | nil => simp [firstNode, FailsWith.error_iff, isBreakage]
  | cons expr others => simp [firstNode, argument]

theorem breaksWith_mapped {expr : Expr} {exprs : List Expr} :
    FailsWith isBreakage
        (mapped field expr (exprs.map (builder.argument field context inline quoted))) error ↔
      (exprs.length ≠ 2 ∧ ∃ fault, Unshowable expr fault ∧ error = .value fault) ∨
        ∃ key value, exprs = [key, value] ∧
          FailsWith isBreakage (builder.node field context inline quoted value) error := by
  match exprs with
  | [key, value] =>
      simp only [mapped, List.map_cons, List.map_nil, FailsWith.bind_iff, single,
        FailsWith.ok_iff, and_false, exists_false, or_false, argument]
      constructor
      · exact fun breaks => .inr ⟨key, value, rfl, breaks⟩
      · intro breaks
        rcases breaks with ⟨count, -⟩ | ⟨_, _, same, breaks⟩
        · exact absurd rfl count
        · cases same
          exact breaks
  | [] | [_] | _ :: _ :: _ :: _ => simp [mapped, breaksWith_refuse]

theorem breaksWith_applied {expr base : Expr} {arguments : List Argument} :
    FailsWith isBreakage (applied field expr base arguments) error ↔
      (generic? base = .ok none ∧ ∃ fault, Unshowable expr fault ∧ error = .value fault) ∨
      (∃ generic, generic? base = .ok (some generic) ∧
        (generic = .array ∨ generic = .optional) ∧
        FailsWith isBreakage (firstNode arguments) error) ∨
      (generic? base = .ok (some .mapping) ∧
        FailsWith isBreakage (mapped field expr arguments) error) ∨
      (generic? base = .ok (some .union) ∧
        FailsWith isBreakage (argumentMembers arguments) error) := by
  rw [applied, FailsWith.bind_iff, breaksWith_generic?, false_or]
  cases generic? base with
  | error fault => simp
  | ok generic? =>
      cases generic? with
      | none => simp [breaksWith_refuse]
      | some generic =>
          cases generic with
          | array | optional | union => simp [FailsWith.bind_iff, single, FailsWith.ok_iff]
          | mapping => simp

end

variable [Dialect]

/-- The definition of a quoted text at a level, which is how often quotations may still nest.
Before the first one there is no level: its length gives it. -/
def quotedAt (builder : Builder) (field context : Text) (inline : Bool) :
    Option Nat → Text → Except Error Definition
  | none, text => builder.quotedNode field context inline text.length text
  | some 0, _ => .error .depthExceeded
  | some (depth + 1), text => builder.quotedNode field context inline depth text

def levelInside : Option Nat → Text → Nat
  | none, text => text.length
  | some level, _ => level - 1

variable (builder : Builder) (field context : Text) (inline : Bool)

/-- An expression breaks the builder at a level with an error.  Of several arguments or
alternatives the first that cannot be built decides, so those before it have definitions. -/
inductive Breaks : Option Nat → Expr → Error → Prop where
  | shown {level : Option Nat} {expr : Expr} {fault : ValueProblem} (refused : IsRefused expr)
      (unshowable : Unshowable expr fault) : Breaks level expr (.value fault)
  | unread {level : Option Nat} {text : Text} {marked : Bool} (nests : level ≠ some 0)
      (visible : Text.isAllBlank text = false) (null : '\x00' ∈ text)
      (unfit : Dialect.nullUnfit = true) :
      Breaks level (.constant (.str text marked)) (.value .nullCharacter)
  | torn {level : Option Nat} {content : Torn} {marked : Bool} :
      Breaks level (.constant (.torn content marked)) (TypeExpr.tornError content)
  | quoted {level : Option Nat} {text : Text} {marked : Bool} {expr : Expr} {error : Error}
      (nests : level ≠ some 0) (parsed : TypeExpr.parse text = .ok expr)
      (short : isOverlong expr = false)
      (inside : Breaks (some (levelInside level text)) expr error) :
      Breaks level (.constant (.str text marked)) error
  | unapplied {level : Option Nat} {base index : Expr} {generic : Generic}
      (name : generic? base = .ok (some generic)) (takes : generic = .array ∨ generic = .optional)
      (none : index.argumentsOf = []) : Breaks level (.subscript base index) .index
  | first {level : Option Nat} {base index expr : Expr} {others : List Expr} {generic : Generic}
      {error : Error} (name : generic? base = .ok (some generic))
      (takes : generic = .array ∨ generic = .optional)
      (arguments : index.argumentsOf = expr :: others) (short : isOverlong expr = false)
      (inside : Breaks level expr error) : Breaks level (.subscript base index) error
  | value {level : Option Nat} {base index key expr : Expr} {error : Error}
      (name : generic? base = .ok (some .mapping))
      (arguments : index.argumentsOf = [key, expr]) (short : isOverlong expr = false)
      (inside : Breaks level expr error) : Breaks level (.subscript base index) error
  | argument {level : Option Nat} {base index expr : Expr} {before after : List Expr}
      {error : Error} (name : generic? base = .ok (some .union))
      (arguments : index.argumentsOf = before ++ expr :: after)
      (built : ∀ earlier ∈ before, ∃ node, builder.node field context inline
        (builder.quotedAt field context inline level) earlier = .ok node)
      (short : isOverlong expr = false) (inside : Breaks level expr error) :
      Breaks level (.subscript base index) error
  | left {level : Option Nat} {left right : Expr} {error : Error}
      (inside : Breaks level left error) : Breaks level (.binary .bitOr left right) error
  | right {level : Option Nat} {left right : Expr} {members : Members} {error : Error}
      (built : builder.members field context inline
        (builder.quotedAt field context inline level) left = .ok members)
      (inside : Breaks level right error) : Breaks level (.binary .bitOr left right) error

section

variable {builder field context inline} {error : Error} {level : Option Nat}

theorem breaksWith_refuseNull {text : Text} :
    FailsWith isBreakage (TypeExpr.refuseNull text) error ↔
      Dialect.nullUnfit = true ∧ error = .value .nullCharacter := by
  unfold TypeExpr.refuseNull
  split
  · next unfit => simp [unfit, FailsWith.error_iff, isBreakage]
  · next fault => simp [fault, TypeExpr.refuseMalformed, not_breaksWith_typeRefuse]

theorem breaksWith_parse {text : Text} :
    FailsWith isBreakage (TypeExpr.parse text) error ↔ Text.isAllBlank text = false ∧
      '\x00' ∈ text ∧ Dialect.nullUnfit = true ∧ error = .value .nullCharacter := by
  have comment {problem : Problem} :
      ¬ FailsWith isBreakage (TypeExpr.refuse problem text) error := not_breaksWith_typeRefuse
  unfold TypeExpr.parse
  cases blank : Text.isAllBlank text with
  | true => simpa using comment
  | false =>
      by_cases null : '\x00' ∈ text
      · simp [null, breaksWith_refuseNull]
      · simp only [Bool.false_eq_true, if_false, List.contains_iff_mem, null, false_and,
          and_false, iff_false]
        cases Expr.read? (Text.trim text) with
        | none => exact comment
        | some expr =>
            by_cases deep : expr.depth > Expr.depthLimit
            · simpa [deep] using comment
            · simp [deep, FailsWith.ok_iff]

theorem quotedNode_eq (depth : Nat) (text : Text) :
    builder.quotedNode field context inline depth text =
      TypeExpr.parse text >>= fun expr => builder.node field context inline
        (builder.quotedAt field context inline (some depth)) expr := by
  cases depth with
  | zero => rfl
  | succ depth => rfl

theorem breaksWith_quotedAt {level : Option Nat} {text : Text} :
    FailsWith isBreakage (builder.quotedAt field context inline level text) error ↔
      level ≠ some 0 ∧ (FailsWith isBreakage (TypeExpr.parse text) error ∨
        ∃ expr, TypeExpr.parse text = .ok expr ∧
          FailsWith isBreakage (builder.node field context inline
            (builder.quotedAt field context inline (some (levelInside level text))) expr)
            error) := by
  cases level with
  | none => simp [quotedAt, quotedNode_eq, FailsWith.bind_iff, levelInside]
  | some level =>
      cases level with
      | zero => simp [quotedAt, FailsWith.error_iff, Error.depthExceeded, isBreakage]
      | succ depth => simp [quotedAt, quotedNode_eq, FailsWith.bind_iff, levelInside]

def QuotationsBreak (builder : Builder) (field context : Text) (inline : Bool)
    (level : Option Nat) : Prop :=
  ∀ text marked error,
    FailsWith isBreakage (builder.quotedAt field context inline level text) error ↔
      builder.Breaks field context inline level (.constant (.str text marked)) error

theorem breaksWith_members_subscript {base index : Expr}
    (inArguments : ∀ expr ∈ index.argumentsOf, ∀ error,
      FailsWith isBreakage (builder.members field context inline
        (builder.quotedAt field context inline level) expr) error ↔
        builder.Breaks field context inline level expr error) :
    FailsWith isBreakage (builder.members field context inline
      (builder.quotedAt field context inline level) (.subscript base index)) error ↔
      builder.Breaks field context inline level (.subscript base index) error := by
  have inNodes {expr : Expr} (member : expr ∈ index.argumentsOf) :
      FailsWith isBreakage (builder.node field context inline
        (builder.quotedAt field context inline level) expr) error ↔
        isOverlong expr = false ∧ builder.Breaks field context inline level expr error := by
    rw [breaksWith_node, inArguments expr member]
  rw [members_subscript, breaksWith_applied]
  constructor
  · intro fails
    rcases fails with ⟨name, fault, unshowable, rfl⟩ | ⟨generic, name, takes, breaks⟩ |
      ⟨name, breaks⟩ | ⟨name, breaks⟩
    · exact .shown (.unknown name) unshowable
    · rcases breaksWith_firstNode.mp breaks with ⟨none, rfl⟩ | ⟨expr, others, same, breaks⟩
      · exact .unapplied name takes none
      · obtain ⟨short, inside⟩ := (inNodes (by simp [same])).mp breaks
        exact .first name takes same short inside
    · rcases breaksWith_mapped.mp breaks with
        ⟨count, fault, unshowable, rfl⟩ | ⟨key, value, same, breaks⟩
      · exact .shown (.arity name count) unshowable
      · obtain ⟨short, inside⟩ := (inNodes (by simp [same])).mp breaks
        exact .value name same short inside
    · obtain ⟨before, expr, after, same, built, breaks⟩ := breaksWith_argumentMembers.mp breaks
      obtain ⟨short, inside⟩ := (inNodes (by simp [same])).mp breaks
      exact .argument name same built short inside
  · intro breaks
    cases breaks with
    | shown refused unshowable =>
        cases refused with
        | other form _ => cases form
        | unknown name => exact .inl ⟨name, _, unshowable, rfl⟩
        | arity name count =>
            refine .inr (.inr (.inl ⟨name, ?_⟩))
            exact breaksWith_mapped.mpr (.inl ⟨count, _, unshowable, rfl⟩)
    | unapplied name takes none =>
        exact .inr (.inl ⟨_, name, takes, breaksWith_firstNode.mpr (.inl ⟨none, rfl⟩)⟩)
    | first name takes same short inside =>
        refine .inr (.inl ⟨_, name, takes, breaksWith_firstNode.mpr (.inr ⟨_, _, same, ?_⟩)⟩)
        exact (inNodes (by simp [same])).mpr ⟨short, inside⟩
    | value name same short inside =>
        refine .inr (.inr (.inl ⟨name, breaksWith_mapped.mpr (.inr ⟨_, _, same, ?_⟩)⟩))
        exact (inNodes (by simp [same])).mpr ⟨short, inside⟩
    | argument name same built short inside =>
        refine .inr (.inr (.inr ⟨name, breaksWith_argumentMembers.mpr ⟨_, _, _, same, built, ?_⟩⟩))
        exact (inNodes (by simp [same])).mpr ⟨short, inside⟩

theorem breaksWith_members_dotted {value : Expr} {attr : Text} :
    FailsWith isBreakage (builder.members field context inline
      (builder.quotedAt field context inline level) (.attribute value attr)) error ↔
      builder.Breaks field context inline level (.attribute value attr) error := by
  rw [members, FailsWith.bind_iff, breaksWith_dottedName?, false_or]
  constructor
  · intro fails
    obtain ⟨dotted?, named, breaks⟩ := fails
    cases dotted? with
    | none =>
        obtain ⟨fault, unshowable, rfl⟩ := breaksWith_refuse.mp breaks
        exact .shown (.undotted named) unshowable
    | some dotted => exact (FailsWith.ok_iff.mp breaks).elim
  · intro breaks
    cases breaks with
    | shown refused unshowable =>
        cases refused with
        | other form _ => cases form
        | undotted named =>
            exact ⟨none, named, breaksWith_refuse.mpr ⟨_, unshowable, rfl⟩⟩

theorem breaksWith_members_alternatives {left right : Expr}
    (inLeft : ∀ error, FailsWith isBreakage (builder.members field context inline
      (builder.quotedAt field context inline level) left) error ↔
      builder.Breaks field context inline level left error)
    (inRight : ∀ error, FailsWith isBreakage (builder.members field context inline
      (builder.quotedAt field context inline level) right) error ↔
      builder.Breaks field context inline level right error) :
    FailsWith isBreakage (builder.members field context inline
      (builder.quotedAt field context inline level) (.binary .bitOr left right)) error ↔
      builder.Breaks field context inline level (.binary .bitOr left right) error := by
  simp only [members, joined, FailsWith.bind_iff, FailsWith.ok_iff, and_false, exists_false,
    or_false, inLeft, inRight]
  constructor
  · intro breaks
    rcases breaks with inside | ⟨built, same, inside⟩
    · exact .left inside
    · exact .right same inside
  · intro breaks
    cases breaks with
    | left inside => exact .inl inside
    | right built inside => exact .inr ⟨_, built, inside⟩
    | shown refused => cases refused.isAccepted_eq_false

theorem breaksWith_noType {expr : Expr} (form : expr.isTypeForm = false) :
    FailsWith isBreakage (.error (noType field expr) : Except Error Members) error ↔
      builder.Breaks field context inline level expr error := by
  cases torn : expr.isTorn with
  | true =>
      unfold Expr.isTorn at torn
      split at torn
      · next content marked =>
          rw [FailsWith.error_iff]
          constructor
          · intro fails
            obtain ⟨-, rfl⟩ := fails
            exact .torn
          · intro breaks
            cases breaks with
            | torn => exact ⟨rfl, rfl⟩
            | shown refused =>
                cases refused with
                | other _ whole => cases whole
      · cases torn
  | false =>
      rw [noType_of_not_isTorn _ torn, breaksWith_refuse]
      constructor
      · intro shown
        obtain ⟨fault, unshowable, rfl⟩ := shown
        exact .shown (.other form torn) unshowable
      · intro breaks
        cases breaks with
        | shown refused unshowable => exact ⟨_, unshowable, rfl⟩
        | torn => cases torn
        | _ => cases form

theorem breaksWith_members (quotations : builder.QuotationsBreak field context inline level)
    (expr : Expr) (error : Error) :
    FailsWith isBreakage (builder.members field context inline
      (builder.quotedAt field context inline level) expr) error ↔
      builder.Breaks field context inline level expr error := by
  induction expr using Expr.typeInduction generalizing error with
  | null =>
      simp only [members, FailsWith.ok_iff, false_iff]
      intro breaks
      cases breaks with
      | shown refused => cases refused.isAccepted_eq_false
  | quotation text marked =>
      rw [← quotations text marked, members]
      simp [FailsWith.bind_iff, single, FailsWith.ok_iff]
  | name id =>
      simp only [members, single, FailsWith.ok_iff, false_iff]
      intro breaks
      cases breaks with
      | shown refused => cases refused.isAccepted_eq_false
  | dotted value attr => exact breaksWith_members_dotted
  | subscript base index inArguments => exact breaksWith_members_subscript inArguments
  | alternatives left right inLeft inRight =>
      exact breaksWith_members_alternatives inLeft inRight
  | other expr form =>
      rw [members_of_not_isTypeForm _ _ _ _ _ form]
      exact breaksWith_noType form

theorem quotationsBreak_of_inside (nests : level ≠ some 0)
    (inside : ∀ text, builder.QuotationsBreak field context inline
      (some (levelInside level text))) :
    builder.QuotationsBreak field context inline level := by
  intro text marked error
  have members (expr : Expr) := breaksWith_members (inside text) expr error
  simp only [breaksWith_quotedAt, breaksWith_parse, breaksWith_node, members]
  constructor
  · intro breaks
    rcases breaks with ⟨-, ⟨visible, null, unfit, rfl⟩ | ⟨expr, parsed, short, inside⟩⟩
    · exact .unread nests visible null unfit
    · exact .quoted nests parsed short inside
  · intro breaks
    cases breaks with
    | shown refused => cases refused.isAccepted_eq_false
    | unread _ visible null unfit => exact ⟨nests, .inl ⟨visible, null, unfit, rfl⟩⟩
    | quoted _ parsed short inside => exact ⟨nests, .inr ⟨_, parsed, short, inside⟩⟩

theorem quotationsBreak_some (depth : Nat) :
    builder.QuotationsBreak field context inline (some depth) := by
  -- The text of a quotation is parsed anew, so only the level goes down with it.
  induction depth with
  | zero =>
      intro text marked error
      simp only [breaksWith_quotedAt, ne_eq, not_true, false_and, false_iff]
      intro breaks
      cases breaks with
      | shown refused => cases refused.isAccepted_eq_false
      | unread nests | quoted nests => exact nests rfl
  | succ depth ih => exact quotationsBreak_of_inside (by simp) fun _ => ih

theorem quotationsBreak (level : Option Nat) :
    builder.QuotationsBreak field context inline level := by
  cases level with
  | none => exact quotationsBreak_of_inside (by simp) fun text => quotationsBreak_some text.length
  | some depth => exact quotationsBreak_some depth

/-- Building an expression breaks just as the relation says. -/
theorem breaksWith_build {expr : Expr} :
    FailsWith isBreakage (builder.build field expr context inline) error ↔
      isOverlong expr = false ∧ builder.Breaks field context inline none expr error := by
  have outermost : (fun text => builder.quotedNode field context inline text.length text) =
      builder.quotedAt field context inline none := rfl
  rw [← breaksWith_members (quotationsBreak none) expr error, ← breaksWith_node, build, outermost]
  split
  · next message same =>
      rw [same]
      simp [FailsWith.error_iff, isBreakage]
  · rfl

/-- Where the stack gives out, nothing breaks any more. -/
theorem breaksWith_buildOnStack {expr : Expr} :
    FailsWith isBreakage (builder.buildOnStack field expr context inline) error ↔
      Dialect.exhaustion? expr = none ∧ isOverlong expr = false ∧
        builder.Breaks field context inline none expr error := by
  unfold buildOnStack
  cases Dialect.exhaustion? expr with
  | none => simpa using breaksWith_build
  | some exhaustion =>
      cases exhaustion with
      | building | reading => simp [FailsWith.error_iff, isBreakage]

/-- The builder breaks only with a missing argument or with a value that cannot be used. -/
theorem Breaks.index_or_value {expr : Expr}
    (breaks : builder.Breaks field context inline level expr error) :
    error = .index ∨ ∃ fault, error = .value fault := by
  induction breaks with
  | shown | unread | torn => exact .inr ⟨_, rfl⟩
  | unapplied => exact .inl rfl
  | quoted _ _ _ _ ih | first _ _ _ _ _ ih | value _ _ _ _ ih | argument _ _ _ _ _ ih
  | left _ ih | right _ _ ih => exact ih

end

end Builder

end CommentSchema
