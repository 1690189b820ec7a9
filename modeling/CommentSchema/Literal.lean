import CommentSchema.Error
import CommentSchema.Expr.Parser
import CommentSchema.Json.Reader
import CommentSchema.Text.Blank

/-! Literals: a text is read as JSON first and otherwise as an expression made of constants,
signs and displays only. -/

namespace CommentSchema.Literal

inductive Refusal where
  | noLiteral
  | tooLarge
deriving DecidableEq, Repr

def ofConstant : Constant → Value
  | .none => .null
  | .bool flag => .bool flag
  | .int n => .int (Int.ofNat n)
  | .float x => .float x
  | .imaginary x => .complex .zero x
  | .str text _ => .str text
  | .torn content _ => .torn content
  | .bytes content => .bytes content
  | .ellipsis => .ellipsis

/-- A whole, real or imaginary number; truth values are none. -/
def number? : Expr → Option Value
  | .constant (.int n) => some (.int (Int.ofNat n))
  | .constant (.float x) => some (.float x)
  | .constant (.imaginary x) => some (.complex .zero x)
  | _ => none

def negate : Value → Value
  | .int n => .int (-n)
  | .float x => .float x.neg
  | .complex re im => .complex re.neg im.neg
  | value => value

def signedNumber? : Expr → Option Value
  | .unary .plus operand => number? operand
  | .unary .minus operand => (number? operand).map negate
  | expr => number? expr

/-- A real number as the real part of a sum; adding zero turns a negative zero positive. -/
def realPart (subtracts : Bool) : Value → Except Refusal Binary64
  | .int n =>
      match Binary64.ofInt? n with
      | some x => .ok x
      | none => .error .tooLarge
  | .float x => .ok (if x.isZero && !subtracts then .zero else x)
  | _ => .error .noLiteral

def complexSum (subtracts : Bool) (left right : Expr) : Except Refusal Value :=
  match signedNumber? left, right with
  | some real, .constant (.imaginary im) => do
      let re ← realPart subtracts real
      .ok (.complex re (if !subtracts then im else if im.isZero then .zero else im.neg))
  | _, _ => .error .noLiteral

def ofOption (value : Option Value) : Except Refusal Value :=
  match value with
  | some value => .ok value
  | none => .error .noLiteral

/-- The empty set has no display. -/
def ofCall : Expr → List Expr → List (Option Text × Expr) → Except Refusal Value
  | .name id, [], [] => if id = "set".toList then .ok (.set []) else .error .noLiteral
  | _, _, _ => .error .noLiteral

/-- A member of a set or a key. -/
def hashable (value : Value) : Except Refusal Value :=
  if value.isHashable then .ok value else .error .noLiteral

mutual
def ofExpr (expr : Expr) : Except Refusal Value :=
  match expr with
  | .constant value => .ok (ofConstant value)
  | .tuple elements => (ofExprs elements).map .tuple
  | .list elements => (ofExprs elements).map .list
  | .set elements => (ofMembers elements).map Value.ofMembers
  | .dict entries => (ofEntries entries).map Value.ofEntries
  | .call function arguments keywords => ofCall function arguments keywords
  | .unary .. => ofOption (signedNumber? expr)
  | .binary .add left right => complexSum false left right
  | .binary .subtract left right => complexSum true left right
  | _ => .error .noLiteral
termination_by structural expr

def ofExprs (exprs : List Expr) : Except Refusal (List Value) :=
  match exprs with
  | [] => .ok []
  | expr :: rest => do
      let first ← ofExpr expr
      let others ← ofExprs rest
      .ok (first :: others)
termination_by structural exprs

/-- Each member is put into the set before the next one is read. -/
def ofMembers (exprs : List Expr) : Except Refusal (List Value) :=
  match exprs with
  | [] => .ok []
  | expr :: rest => do
      let first ← hashable (← ofExpr expr)
      let others ← ofMembers rest
      .ok (first :: others)
termination_by structural exprs

def ofEntries (entries : List (Option Expr × Expr)) : Except Refusal (List (Value × Value)) :=
  match entries with
  | [] => .ok []
  | (none, _) :: _ => .error .noLiteral
  | (some key, value) :: rest => do
      let key ← ofExpr key
      let value ← ofExpr value
      let key ← hashable key
      let others ← ofEntries rest
      .ok ((key, value) :: others)
termination_by structural entries
end

variable [Dialect]

def readExpression (text : Text) : Except Refusal Value :=
  if text.contains '\x00' then .error .noLiteral
  else
    match Expr.read? (Text.trim text) with
    | some expr => if expr.depth > Expr.depthLimit then .error .noLiteral else ofExpr expr
    | none => .error .noLiteral

/-- The value of a text, read as JSON if it is that and else as an expression. -/
def read (text : Text) : Except Error Value :=
  match Json.read {} text with
  | .ok value => .ok value
  | .error (.tooManyDigits count) => .error (.value (.tooManyDigits count))
  | .error _ =>
      match readExpression text with
      | .ok value => .ok value
      | .error .tooLarge => .error .overflow
      | .error .noLiteral => .error (.comment ⟨.literalUnreadable text, [], some text⟩)

end CommentSchema.Literal
