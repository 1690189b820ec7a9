import CommentSchema.Literal
import CommentSchema.Proofs.First

/-! The one way in which a literal is out of range instead of being no literal: a whole number
that is too large to be a real part stands in a sum with an imaginary number. -/

namespace CommentSchema.Literal

open Error (bind_eq_error map_eq_error)

theorem hashable_eq_ok {value found : Value} :
    hashable value = .ok found ↔ value.isHashable = true ∧ value = found := by
  unfold hashable
  split
  · next hashes => simp [hashes]
  · next unhashed => simp [unhashed]

theorem hashable_ne_tooLarge {value : Value} : hashable value ≠ .error .tooLarge := by
  unfold hashable
  split <;> simp

def IsLiteral (expr : Expr) : Prop := ∃ value, ofExpr expr = .ok value

/-- A literal that may stand in a set or as a key. -/
def IsMember (expr : Expr) : Prop := ∃ value, ofExpr expr = .ok value ∧ value.isHashable = true

def IsEntry (entry : Option Expr × Expr) : Prop :=
  ∃ key, entry.1 = some key ∧ IsMember key ∧ IsLiteral entry.2

/-- Lists and tuples hold whatever is a literal. -/
def elementsOf? : Expr → Option (List Expr)
  | .tuple elements | .list elements => some elements
  | _ => none

/-- Reading the expression meets a number that is out of range.  A display is read from the
left, and what stands before the number in it are literals.  A set takes each member in before
it reads the next one, and a dictionary takes a key in once its value has been read. -/
inductive Overflows : Expr → Prop where
  | sum {op : BinaryOp} {left : Expr} {n : Int} {im : Binary64}
      (adds : op = .add ∨ op = .subtract) (real : signedNumber? left = some (.int n))
      (large : Binary64.ofInt? n = none) :
      Overflows (.binary op left (.constant (.imaginary im)))
  | element {display expr : Expr} {before after : List Expr}
      (elements : elementsOf? display = some (before ++ expr :: after))
      (read : ∀ earlier ∈ before, IsLiteral earlier) (inside : Overflows expr) :
      Overflows display
  | member {before after : List Expr} {expr : Expr}
      (read : ∀ earlier ∈ before, IsMember earlier) (inside : Overflows expr) :
      Overflows (.set (before ++ expr :: after))
  | key {before after : List (Option Expr × Expr)} {key value : Expr}
      (read : ∀ earlier ∈ before, IsEntry earlier) (inside : Overflows key) :
      Overflows (.dict (before ++ (some key, value) :: after))
  | value {before after : List (Option Expr × Expr)} {key value : Expr}
      (read : ∀ earlier ∈ before, IsEntry earlier) (readKey : IsLiteral key)
      (inside : Overflows value) : Overflows (.dict (before ++ (some key, value) :: after))

section

variable {exprs : List Expr}
  (inElements : ∀ expr ∈ exprs, ofExpr expr = .error .tooLarge ↔ Overflows expr)

include inElements

/-- A display meets such a number in its first element that is no literal. -/
theorem ofExprs_eq_tooLarge :
    ofExprs exprs = .error .tooLarge ↔ Meets IsLiteral Overflows exprs := by
  induction exprs with
  | nil => simp [ofExprs, not_meets_nil]
  | cons first rest ih =>
      rw [List.forall_mem_cons] at inElements
      simp only [ofExprs, bind_eq_error, inElements.1, ih inElements.2, reduceCtorEq,
        and_false, exists_false, or_false, meets_cons, IsLiteral, exists_and_right]

theorem ofMembers_eq_tooLarge :
    ofMembers exprs = .error .tooLarge ↔ Meets IsMember Overflows exprs := by
  induction exprs with
  | nil => simp [ofMembers, not_meets_nil]
  | cons first rest ih =>
      rw [List.forall_mem_cons] at inElements
      simp only [ofMembers, bind_eq_error, inElements.1, ih inElements.2, hashable_ne_tooLarge,
        hashable_eq_ok, reduceCtorEq, and_false, exists_false, or_false, false_or, meets_cons,
        IsMember, ← and_assoc, exists_and_right, exists_eq_right']

end

def EntryOverflows (entry : Option Expr × Expr) : Prop :=
  ∃ key, entry.1 = some key ∧ (Overflows key ∨ IsLiteral key ∧ Overflows entry.2)

theorem ofEntries_eq_tooLarge {entries : List (Option Expr × Expr)}
    (inKeys : ∀ key value, (some key, value) ∈ entries →
      (ofExpr key = .error .tooLarge ↔ Overflows key))
    (inValues : ∀ key value, (some key, value) ∈ entries →
      (ofExpr value = .error .tooLarge ↔ Overflows value)) :
    ofEntries entries = .error .tooLarge ↔ Meets IsEntry EntryOverflows entries := by
  induction entries with
  | nil => simp [ofEntries, not_meets_nil]
  | cons first rest ih =>
      have inRest := ih (fun key value member => inKeys key value (by simp [member]))
        (fun key value member => inValues key value (by simp [member]))
      obtain ⟨key?, value⟩ := first
      cases key? with
      | none => simp [ofEntries, meets_cons, EntryOverflows, IsEntry]
      | some key =>
          simp only [ofEntries, bind_eq_error, inKeys key value (by simp),
            inValues key value (by simp), inRest, hashable_ne_tooLarge, hashable_eq_ok,
            reduceCtorEq, and_false, exists_false, or_false, false_or, meets_cons, EntryOverflows,
            IsEntry, Option.some.injEq, exists_eq_left']
          constructor
          · intro overflows
            rcases overflows with inside | ⟨keyValue, readKey, inside |
              ⟨read, isRead, _, ⟨hashes, -⟩, meets⟩⟩
            · exact .inl (.inl inside)
            · exact .inl (.inr ⟨⟨keyValue, readKey⟩, inside⟩)
            · exact .inr ⟨⟨⟨keyValue, readKey, hashes⟩, read, isRead⟩, meets⟩
          · intro overflows
            rcases overflows with (inside | ⟨⟨keyValue, readKey⟩, inside⟩) |
                ⟨⟨⟨keyValue, readKey, hashes⟩, read, isRead⟩, meets⟩
            · exact .inl inside
            · exact .inr ⟨keyValue, readKey, .inl inside⟩
            · exact .inr ⟨keyValue, readKey, .inr ⟨read, isRead, _, ⟨hashes, rfl⟩, meets⟩⟩

theorem realPart_eq_tooLarge {subtracts : Bool} {real : Value} :
    realPart subtracts real = .error .tooLarge ↔
      ∃ n, real = .int n ∧ Binary64.ofInt? n = none := by
  cases real with
  | int n =>
      simp only [realPart, Value.int.injEq, exists_eq_left']
      cases Binary64.ofInt? n <;> simp
  | _ => simp [realPart]

theorem complexSum_eq_tooLarge {subtracts : Bool} {left right : Expr} :
    complexSum subtracts left right = .error .tooLarge ↔
      ∃ n im, signedNumber? left = some (.int n) ∧ Binary64.ofInt? n = none ∧
        right = .constant (.imaginary im) := by
  unfold complexSum
  split
  · next real im signed =>
      simp only [signed, bind_eq_error, realPart_eq_tooLarge, reduceCtorEq, and_false,
        exists_false, or_false, Option.some.injEq, Expr.constant.injEq, Constant.imaginary.injEq,
        exists_and_left, exists_eq', and_true]
  · next other =>
      simp only [Except.error.injEq, reduceCtorEq, false_iff]
      intro large
      obtain ⟨n, im, signed, -, rfl⟩ := large
      exact other _ _ signed rfl

theorem Overflows.element_iff {display : Expr} {elements : List Expr}
    (isDisplay : elementsOf? display = some elements) :
    Overflows display ↔
      Meets IsLiteral Overflows elements := by
  constructor
  · intro overflows
    cases overflows with
    | element same read inside =>
        rw [same] at isDisplay
        exact ⟨_, _, _, (Option.some.inj isDisplay).symm, read, inside⟩
    | _ => cases isDisplay
  · intro meets
    obtain ⟨before, expr, after, rfl, read, inside⟩ := meets
    exact .element isDisplay read inside

theorem Overflows.member_iff {elements : List Expr} :
    Overflows (.set elements) ↔ Meets IsMember Overflows elements := by
  constructor
  · intro overflows
    cases overflows with
    | element isDisplay => cases isDisplay
    | member read inside => exact ⟨_, _, _, rfl, read, inside⟩
  · intro meets
    obtain ⟨before, expr, after, rfl, read, inside⟩ := meets
    exact .member read inside

theorem Overflows.entry_iff {entries : List (Option Expr × Expr)} :
    Overflows (.dict entries) ↔ Meets IsEntry EntryOverflows entries := by
  constructor
  · intro overflows
    cases overflows with
    | element isDisplay => cases isDisplay
    | key read inside => exact ⟨_, _, _, rfl, read, _, rfl, .inl inside⟩
    | value read readKey inside => exact ⟨_, _, _, rfl, read, _, rfl, .inr ⟨readKey, inside⟩⟩
  · intro meets
    rcases meets with ⟨before, ⟨_, value⟩, after, rfl, read, key, rfl, inside | ⟨readKey, inside⟩⟩
    · exact .key read inside
    · exact .value read readKey inside

theorem Overflows.sum_iff {op : BinaryOp} {left right : Expr} :
    Overflows (.binary op left right) ↔ (op = .add ∨ op = .subtract) ∧
      ∃ n im, signedNumber? left = some (.int n) ∧ Binary64.ofInt? n = none ∧
        right = .constant (.imaginary im) := by
  constructor
  · intro overflows
    cases overflows with
    | sum adds real large => exact ⟨adds, _, _, real, large, rfl⟩
    | element isDisplay => cases isDisplay
  · intro large
    obtain ⟨adds, n, im, real, large, rfl⟩ := large
    exact .sum adds real large

theorem sizeOf_lt_of_mem_elements {display expr : Expr} {elements : List Expr}
    (isDisplay : elementsOf? display = some elements) (member : expr ∈ elements) :
    sizeOf expr < sizeOf display := by
  have inElements := List.sizeOf_lt_of_mem member
  unfold elementsOf? at isDisplay
  split at isDisplay
  · cases isDisplay
    simp only [Expr.tuple.sizeOf_spec]
    omega
  · cases isDisplay
    simp only [Expr.list.sizeOf_spec]
    omega
  · cases isDisplay

theorem sizeOf_lt_of_mem_members {elements : List Expr} {expr : Expr} (member : expr ∈ elements) :
    sizeOf expr < sizeOf (Expr.set elements) := by
  have inElements := List.sizeOf_lt_of_mem member
  simp only [Expr.set.sizeOf_spec]
  omega

theorem sizeOf_lt_of_mem_entries {entries : List (Option Expr × Expr)} {key value : Expr}
    (member : (some key, value) ∈ entries) :
    sizeOf key < sizeOf (Expr.dict entries) ∧ sizeOf value < sizeOf (Expr.dict entries) := by
  have inEntries := List.sizeOf_lt_of_mem member
  simp only [Expr.dict.sizeOf_spec, Prod.mk.sizeOf_spec, Option.some.sizeOf_spec] at inEntries ⊢
  omega

/-- An expression that is no display and no sum is a literal or none, but never out of range. -/
theorem not_overflows {expr : Expr} (display : elementsOf? expr = none)
    (noSet : ∀ elements, expr ≠ .set elements) (noDict : ∀ entries, expr ≠ .dict entries)
    (noBinary : ∀ op left right, expr ≠ .binary op left right) : ¬ Overflows expr := by
  intro overflows
  cases overflows with
  | sum => exact noBinary _ _ _ rfl
  | element isDisplay =>
      rw [isDisplay] at display
      cases display
  | member => exact noSet _ rfl
  | key | value => exact noDict _ rfl

/-- A literal is out of range just where reading it meets such a number. -/
theorem ofExpr_eq_tooLarge (expr : Expr) : ofExpr expr = .error .tooLarge ↔ Overflows expr := by
  -- Displays keep their elements in lists, so the induction is on the size.
  induction size : sizeOf expr using Nat.strongRecOn generalizing expr with
  | ind n smaller =>
      subst size
      have inElements {elements : List Expr} (isDisplay : elementsOf? expr = some elements) :
          ∀ inner ∈ elements, ofExpr inner = .error .tooLarge ↔ Overflows inner :=
        fun inner member => smaller _ (sizeOf_lt_of_mem_elements isDisplay member) inner rfl
      cases expr with
      | tuple | list =>
          rw [ofExpr, map_eq_error, ofExprs_eq_tooLarge (inElements rfl),
            Overflows.element_iff rfl]
      | set elements =>
          have inMembers (expr : Expr) (member : expr ∈ elements) :=
            smaller _ (sizeOf_lt_of_mem_members member) expr rfl
          rw [ofExpr, map_eq_error, ofMembers_eq_tooLarge inMembers, Overflows.member_iff]
      | dict entries =>
          have inKeys (key value : Expr) (member : (some key, value) ∈ entries) :=
            smaller _ (sizeOf_lt_of_mem_entries member).1 key rfl
          have inValues (key value : Expr) (member : (some key, value) ∈ entries) :=
            smaller _ (sizeOf_lt_of_mem_entries member).2 value rfl
          rw [ofExpr, map_eq_error, ofEntries_eq_tooLarge inKeys inValues, Overflows.entry_iff]
      | binary op left right =>
          rw [Overflows.sum_iff]
          cases op with
          | add | subtract => simp [ofExpr, complexSum_eq_tooLarge]
          | _ => simp [ofExpr]
      | unary op operand =>
          refine iff_of_false ?_ (not_overflows rfl (by simp) (by simp) (by simp))
          rw [ofExpr]
          cases signedNumber? (.unary op operand) <;> simp [ofOption]
      | call function arguments keywords =>
          refine iff_of_false ?_ (not_overflows rfl (by simp) (by simp) (by simp))
          rw [ofExpr]
          unfold ofCall
          split
          · split <;> simp
          · simp
      | _ =>
          refine iff_of_false ?_ (not_overflows rfl (by simp) (by simp) (by simp))
          simp [ofExpr]

variable [Dialect]

/-- The text is no JSON, nor one with too many digits, but an expression that is out of range. -/
structure TextOverflows (text : Text) : Prop where
  noJson : ∃ failure, Json.read {} text = .error failure ∧
    ∀ count, failure ≠ .tooManyDigits count
  noNull : '\x00' ∉ text
  overflows : ∃ expr, Expr.read? (Text.trim text) = some expr ∧
    expr.depth ≤ Expr.depthLimit ∧ Overflows expr

theorem readExpression_eq_tooLarge {text : Text} :
    readExpression text = .error .tooLarge ↔
      '\x00' ∉ text ∧ ∃ expr, Expr.read? (Text.trim text) = some expr ∧
        expr.depth ≤ Expr.depthLimit ∧ Overflows expr := by
  unfold readExpression
  by_cases null : '\x00' ∈ text
  · simp [null]
  · cases Expr.read? (Text.trim text) with
    | none => simp [null]
    | some expr =>
        by_cases deep : expr.depth > Expr.depthLimit
        · simp [null, deep, Nat.not_le_of_gt deep]
        · simp [null, deep, Nat.le_of_not_gt deep, ofExpr_eq_tooLarge]

theorem read_eq_overflow {text : Text} : read text = .error .overflow ↔ TextOverflows text := by
  constructor
  · intro overflow
    unfold read at overflow
    split at overflow
    · cases overflow
    · cases overflow
    · next failure notDigits same =>
        split at overflow
        · cases overflow
        · next large =>
            obtain ⟨noNull, overflows⟩ := readExpression_eq_tooLarge.mp large
            exact ⟨⟨failure, same, notDigits⟩, noNull, overflows⟩
        · cases overflow
  · intro overflows
    obtain ⟨⟨failure, same, notDigits⟩, noNull, overflows⟩ := overflows
    have large := readExpression_eq_tooLarge.mpr ⟨noNull, overflows⟩
    unfold read
    rw [same, large]
    cases failure with
    | malformed | tooDeep => rfl
    | tooManyDigits count => exact absurd rfl (notDigits count)

/-- A text that cannot be read is out of range or an unfit value. -/
theorem isUnfitValue_of_read {text : Text} {error : Error} (failed : read text = .error error) :
    error = .overflow ∨ error.isUnfitValue = true := by
  unfold read at failed
  split at failed
  · cases failed
  · cases failed
    exact .inr rfl
  · split at failed
    · cases failed
    · cases failed
      exact .inl rfl
    · cases failed
      exact .inr rfl

end CommentSchema.Literal
