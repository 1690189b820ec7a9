import CommentSchema.Value

/-! Expressions in which types and literals are written: names, subscripts, operators,
displays, calls and whatever else the notation allows. -/

namespace CommentSchema

inductive Constant where
  | none
  | bool (flag : Bool)
  | int (number : Nat)
  | float (number : Binary64)
  | imaginary (number : Binary64)
  | str (text : Text) (marked : Bool)
  | torn (content : Torn) (marked : Bool)
  | bytes (content : List UInt8)
  | ellipsis
deriving DecidableEq, Repr, Inhabited

/-- What a quotation of code points is, be they a text or torn. -/
def Constant.quoted (marked : Bool) (points : List CodePoint) : Constant :=
  CodePoint.either (.str · marked) (.torn · marked) points

inductive UnaryOp where
  | negation
  | invert
  | plus
  | minus
deriving DecidableEq, Repr

inductive BinaryOp where
  | bitOr
  | bitXor
  | bitAnd
  | shiftLeft
  | shiftRight
  | add
  | subtract
  | multiply
  | matrixMultiply
  | divide
  | modulo
  | floorDivide
  | power
deriving DecidableEq, Repr

inductive JunctionOp where
  | disjunction
  | conjunction
deriving DecidableEq, Repr

inductive CompareOp where
  | equal
  | notEqual
  | less
  | lessEqual
  | greater
  | greaterEqual
  | same
  | notSame
  | member
  | notMember
deriving DecidableEq, Repr

inductive ComprehensionKind where
  | list
  | set
  | generator
deriving DecidableEq, Repr

mutual
inductive Expr where
  | constant (value : Constant)
  | interpolated (pieces : List Piece)
  | name (id : Text)
  | attribute (value : Expr) (attr : Text)
  | subscript (value index : Expr)
  | slice (lower upper step : Option Expr)
  | starred (value : Expr)
  | call (function : Expr) (arguments : List Expr) (keywords : List (Option Text × Expr))
  | unary (op : UnaryOp) (operand : Expr)
  | binary (op : BinaryOp) (left right : Expr)
  | junction (op : JunctionOp) (operands : List Expr)
  | compare (first : Expr) (others : List (CompareOp × Expr))
  | conditional (test body alternative : Expr)
  | lambda (parameters : List Parameter) (body : Expr)
  | named (target : Text) (value : Expr)
  | tuple (elements : List Expr)
  | list (elements : List Expr)
  | set (elements : List Expr)
  | dict (entries : List (Option Expr × Expr))
  | comprehension (kind : ComprehensionKind) (element : Expr) (clauses : List Clause)
  | dictComprehension (key value : Expr) (clauses : List Clause)
  | await (value : Expr)
  | yield (value : Option Expr)
  | yieldFrom (value : Expr)

inductive Piece where
  | text (content : List CodePoint)
  | field (value : Expr) (conversion : Option Char) (spec : Option (List Piece))

/-- A parameter of a lambda, or one of the marks `/` and `*` between parameters. -/
inductive Parameter where
  | plain (name : Text) (default : Option Expr)
  | positionalEnd
  | rest (name : Option Text)
  | keywordRest (name : Text)

/-- One `for` of a comprehension with its conditions. -/
inductive Clause where
  | mk (isAsync : Bool) (target source : Expr) (conditions : List Expr)
end

namespace Expr

instance : Inhabited Expr := ⟨.constant .none⟩

def dottedName? : Expr → Option Text
  | .name id => some id
  | .attribute value attr =>
      match dottedName? value with
      | some [] | none => none
      | some base => some (base ++ '.' :: attr)
  | _ => none

def dottedName (expr : Expr) : Text := expr.dottedName?.getD []

mutual
def depth : Expr → Nat
  | .constant _ | .name _ => 1
  | .interpolated pieces => depthOfPieces pieces + 1
  | .attribute value _ | .starred value | .unary _ value | .named _ value | .await value
  | .yieldFrom value => value.depth + 1
  | .subscript value index => max value.depth index.depth + 1
  | .slice lower upper step =>
      max (depthOfOption lower) (max (depthOfOption upper) (depthOfOption step)) + 1
  | .call function arguments keywords =>
      max function.depth (max (depthOfList arguments) (depthOfKeywords keywords)) + 1
  | .binary _ left right => max left.depth right.depth + 1
  | .junction _ elements | .tuple elements | .list elements | .set elements =>
      depthOfList elements + 1
  | .compare first others => max first.depth (depthOfCompared others) + 1
  | .conditional test body alternative => max test.depth (max body.depth alternative.depth) + 1
  | .lambda parameters body => max (depthOfParameters parameters) body.depth + 1
  | .dict entries => depthOfEntries entries + 1
  | .comprehension _ element clauses => max element.depth (depthOfClauses clauses) + 1
  | .dictComprehension key value clauses =>
      max key.depth (max value.depth (depthOfClauses clauses)) + 1
  | .yield value => depthOfOption value + 1
termination_by structural expr => expr

def depthOfOption : Option Expr → Nat
  | none => 0
  | some expr => expr.depth
termination_by structural expr => expr

def depthOfList : List Expr → Nat
  | [] => 0
  | expr :: rest => max expr.depth (depthOfList rest)
termination_by structural exprs => exprs

def depthOfKeywords : List (Option Text × Expr) → Nat
  | [] => 0
  | (_, expr) :: rest => max expr.depth (depthOfKeywords rest)
termination_by structural keywords => keywords

def depthOfCompared : List (CompareOp × Expr) → Nat
  | [] => 0
  | (_, expr) :: rest => max expr.depth (depthOfCompared rest)
termination_by structural compared => compared

def depthOfEntries : List (Option Expr × Expr) → Nat
  | [] => 0
  | (key, value) :: rest => max (depthOfOption key) (max value.depth (depthOfEntries rest))
termination_by structural entries => entries

def depthOfPieces : List Piece → Nat
  | [] => 0
  | .text _ :: rest => depthOfPieces rest
  | .field value _ spec :: rest =>
      max (value.depth + 1) (max (depthOfSpec spec) (depthOfPieces rest))
termination_by structural pieces => pieces

def depthOfSpec : Option (List Piece) → Nat
  | none => 0
  | some pieces => depthOfPieces pieces + 2
termination_by structural spec => spec

def depthOfParameters : List Parameter → Nat
  | [] => 0
  | .plain _ default :: rest => max (depthOfOption default) (depthOfParameters rest)
  | .positionalEnd :: rest | .rest _ :: rest | .keywordRest _ :: rest => depthOfParameters rest
termination_by structural parameters => parameters

def depthOfClauses : List Clause → Nat
  | [] => 0
  | .mk _ target source conditions :: rest =>
      max target.depth (max source.depth (max (depthOfList conditions) (depthOfClauses rest)))
termination_by structural clauses => clauses
end

/-- How deep an expression may nest and still be read. -/
def depthLimit : Nat := 2900

def kind : Expr → String
  | .constant _ => "Constant"
  | .interpolated _ => "JoinedStr"
  | .name _ => "Name"
  | .attribute .. => "Attribute"
  | .subscript .. => "Subscript"
  | .slice .. => "Slice"
  | .starred _ => "Starred"
  | .call .. => "Call"
  | .unary .. => "UnaryOp"
  | .binary .. => "BinOp"
  | .junction .. => "BoolOp"
  | .compare .. => "Compare"
  | .conditional .. => "IfExp"
  | .lambda .. => "Lambda"
  | .named .. => "NamedExpr"
  | .tuple _ => "Tuple"
  | .list _ => "List"
  | .set _ => "Set"
  | .dict _ => "Dict"
  | .comprehension .list .. => "ListComp"
  | .comprehension .set .. => "SetComp"
  | .comprehension .generator .. => "GeneratorExp"
  | .dictComprehension .. => "DictComp"
  | .await _ => "Await"
  | .yield _ => "Yield"
  | .yieldFrom _ => "YieldFrom"

end Expr

end CommentSchema
