import CommentSchema.Builder

/-! How the builder takes an expression apart.  Every subscript has a list of arguments, which
is the elements of a tuple or a single expression, and an induction over type expressions goes
through arguments and alternatives only. -/

namespace CommentSchema

namespace Expr

/-- The expressions between the brackets of a subscript. -/
def argumentsOf : Expr → List Expr
  | .tuple elements => elements
  | index => [index]

theorem sizeOf_lt_of_mem_argumentsOf {base index argument : Expr}
    (member : argument ∈ argumentsOf index) :
    sizeOf argument < sizeOf (Expr.subscript base index) := by
  have inIndex : sizeOf argument ≤ sizeOf index := by
    unfold argumentsOf at member
    split at member
    · next elements =>
        have inElements := List.sizeOf_lt_of_mem member
        simp only [Expr.tuple.sizeOf_spec]
        omega
    · exact Nat.le_of_eq (congrArg sizeOf (List.mem_singleton.mp member))
  simp only [Expr.subscript.sizeOf_spec]
  omega

/-- The forms that an expression for a type can have. -/
def isTypeForm : Expr → Bool
  | .constant .none | .constant (.str ..) | .name _ | .attribute .. | .subscript ..
  | .binary .bitOr .. => true
  | _ => false

/-- A quotation that is no text has no form at all. -/
def isTorn : Expr → Bool
  | .constant (.torn ..) => true
  | _ => false

@[elab_as_elim]
theorem typeInduction {motive : Expr → Prop} (expr : Expr)
    (null : motive (.constant .none))
    (quotation : ∀ text marked, motive (.constant (.str text marked)))
    (name : ∀ id, motive (.name id))
    (dotted : ∀ value attr, motive (.attribute value attr))
    (subscript : ∀ base index, (∀ argument ∈ argumentsOf index, motive argument) →
      motive (.subscript base index))
    (alternatives : ∀ left right, motive left → motive right →
      motive (.binary .bitOr left right))
    (other : ∀ expr, isTypeForm expr = false → motive expr) : motive expr := by
  -- Arguments may stand inside of a tuple, two steps below their subscript.
  induction size : sizeOf expr using Nat.strongRecOn generalizing expr with
  | ind n smaller =>
      subst size
      cases expr with
      | constant value =>
          cases value with
          | none => exact null
          | str text marked => exact quotation text marked
          | _ => exact other _ rfl
      | name id => exact name id
      | «attribute» value attr => exact dotted value attr
      | subscript base index =>
          refine subscript base index fun argument member => ?_
          exact smaller _ (sizeOf_lt_of_mem_argumentsOf member) argument rfl
      | binary op left right =>
          cases op with
          | bitOr =>
              have leftSmaller : sizeOf left < sizeOf (Expr.binary .bitOr left right) := by
                simp only [Expr.binary.sizeOf_spec]
                omega
              have rightSmaller : sizeOf right < sizeOf (Expr.binary .bitOr left right) := by
                simp only [Expr.binary.sizeOf_spec]
                omega
              exact alternatives left right (smaller _ leftSmaller left rfl)
                (smaller _ rightSmaller right rfl)
          | _ => exact other _ rfl
      | _ => exact other _ rfl

end Expr

namespace Builder

variable (builder : Builder) (field context : Text) (inline : Bool)
  (quoted : Text → Except Error Definition)

def argument (expr : Expr) : Argument :=
  ⟨isNull expr, fun _ => builder.node field context inline quoted expr⟩

theorem arguments_eq_map (exprs : List Expr) :
    builder.arguments field context inline quoted exprs =
      exprs.map (builder.argument field context inline quoted) := by
  induction exprs with
  | nil => rw [arguments, List.map_nil]
  | cons expr rest ih =>
      rw [arguments, ih, List.map_cons]
      rfl

theorem members_subscript (base index : Expr) :
    builder.members field context inline quoted (.subscript base index) =
      applied field (.subscript base index) base
        (index.argumentsOf.map (builder.argument field context inline quoted)) := by
  cases index with
  | tuple elements =>
      rw [members, arguments_eq_map]
      rfl
  | _ =>
      rw [members]
      · rfl
      · intro elements
        exact fun same => nomatch same

/-- The definitions of builtin names refer to nothing and hold no others. -/
theorem plain_of_builtin {dotted : Text} {definition : Definition}
    (builtin : builtin? dotted = some definition) : definition.ref = none ∧
      definition.items = none ∧ definition.additionalProperties = none ∧
      definition.oneOf = [] := by
  have scalar : ∀ entry ∈ scalars, entry.2.ref = none ∧ entry.2.items = none ∧
      entry.2.additionalProperties = none ∧ entry.2.oneOf = [] := by decide
  unfold builtin? at builtin
  split at builtin
  · next found =>
      cases builtin
      obtain ⟨before, after, same, -⟩ := List.lookup_eq_some_iff.mp found
      exact scalar (dotted, definition) (by rw [same]; simp)
  · split at builtin
    · cases builtin
      exact ⟨rfl, rfl, rfl, rfl⟩
    · split at builtin
      · cases builtin
        exact ⟨rfl, rfl, rfl, rfl⟩
      · cases builtin

theorem members_of_not_isTypeForm {expr : Expr} (other : expr.isTypeForm = false) :
    builder.members field context inline quoted expr = .error (noType field expr) := by
  cases expr with
  | constant value =>
      cases value with
      | none | str => cases other
      | _ => rw [members] <;> simp
  | name | «attribute» | subscript => cases other
  | binary op left right =>
      cases op with
      | bitOr => cases other
      | _ => rw [members] <;> simp
  | _ => rw [members] <;> simp

theorem noType_of_not_isTorn {expr : Expr} (whole : expr.isTorn = false) :
    noType field expr = refuse .typeUnsupported field expr := by
  unfold noType
  split
  · cases whole
  · rfl

end Builder

end CommentSchema
