import CommentSchema.Binary64.Shortest
import CommentSchema.Expr.Basic
import CommentSchema.Text.Quoted

/-! Writing expressions.  Parentheses stand exactly where the surroundings bind more
tightly than the expression, quotations are normalized, and an interpolated text is put
between quotes that its parts do not hold. -/

namespace CommentSchema

namespace Expr

abbrev Binding := Nat

namespace Binding

def tuple : Binding := 2
def yield : Binding := 3
def test : Binding := 4
def disjunction : Binding := 5
def conjunction : Binding := 6
def negation : Binding := 7
def comparison : Binding := 8
def operator : Binding := 9
def bitOr : Binding := 9
def bitXor : Binding := 10
def bitAnd : Binding := 11
def shift : Binding := 12
def sum : Binding := 13
def product : Binding := 14
def factor : Binding := 15
def power : Binding := 16
def await : Binding := 17
def atom : Binding := 18

def tighter (binding : Binding) : Binding := min (binding + 1) atom

end Binding

inductive PrintFailure where
  | tooDeep
  | tooManyDigits
  | backslashInField
deriving DecidableEq, Repr

end Expr

def UnaryOp.written : UnaryOp → Text
  | .negation => "not ".toList
  | .invert => ['~']
  | .plus => ['+']
  | .minus => ['-']

def UnaryOp.binding : UnaryOp → Expr.Binding
  | .negation => .negation
  | _ => .factor

def BinaryOp.written : BinaryOp → Text
  | .bitOr => " | ".toList
  | .bitXor => " ^ ".toList
  | .bitAnd => " & ".toList
  | .shiftLeft => " << ".toList
  | .shiftRight => " >> ".toList
  | .add => " + ".toList
  | .subtract => " - ".toList
  | .multiply => " * ".toList
  | .matrixMultiply => " @ ".toList
  | .divide => " / ".toList
  | .modulo => " % ".toList
  | .floorDivide => " // ".toList
  | .power => " ** ".toList

def BinaryOp.binding : BinaryOp → Expr.Binding
  | .bitOr => .bitOr
  | .bitXor => .bitXor
  | .bitAnd => .bitAnd
  | .shiftLeft | .shiftRight => .shift
  | .add | .subtract => .sum
  | .multiply | .matrixMultiply | .divide | .modulo | .floorDivide => .product
  | .power => .power

def CompareOp.written : CompareOp → Text
  | .equal => " == ".toList
  | .notEqual => " != ".toList
  | .less => " < ".toList
  | .lessEqual => " <= ".toList
  | .greater => " > ".toList
  | .greaterEqual => " >= ".toList
  | .same => " is ".toList
  | .notSame => " is not ".toList
  | .member => " in ".toList
  | .notMember => " not in ".toList

def JunctionOp.written : JunctionOp → Text
  | .disjunction => " or ".toList
  | .conjunction => " and ".toList

def JunctionOp.binding : JunctionOp → Expr.Binding
  | .disjunction => .disjunction
  | .conjunction => .conjunction

namespace Expr

def parenthesized (needed : Bool) (text : Text) : Text :=
  if needed then '(' :: text ++ [')'] else text

/-! ### Quotation marks -/

def allMarks : List Text := [['\x27'], ['\x22'], ['\x22', '\x22', '\x22'], ['\x27', '\x27', '\x27']]

private def escapePlainly (blanks : Bool) (c : Char) : Text :=
  if !blanks && (c == '\n' || c == '\t') then [c]
  else if c == '\\' then ['\\', '\\']
  else Text.escapeUnprintable c

/-- Code points to stand between one of the returned marks, escaped as little as possible. -/
def withMarks (points : List CodePoint) (marks : List Text) (blanks : Bool) : Text × List Text :=
  let escaped := points.flatMap (Text.escapePoint (escapePlainly blanks))
  let possible := if escaped.contains '\n' then marks.filter (·.length == 3) else marks
  let possible := possible.filter fun mark => !Text.mentions escaped mark
  match escaped.getLast?, possible with
  | _, [] =>
      let quoted := Text.quotePoints points
      let mark := quoted.take 1
      let chosen := (marks.find? fun candidate => mark.isPrefixOf candidate).getD mark
      ((quoted.drop 1).dropLast, [chosen])
  | none, possible => (escaped, possible)
  | some last, possible =>
      let clear := possible.filter (·.head? != some last)
      let ordered := clear ++ possible.filter (·.head? == some last)
      if clear.isEmpty then (escaped.dropLast ++ ['\\', last], ordered) else (escaped, ordered)

def betweenMarks (text : Text) (marks : List Text) : Text :=
  let mark := marks.headD []
  mark ++ text ++ mark

def quotePlainly (points : List CodePoint) : Text :=
  let (escaped, marks) := withMarks points allMarks false
  betweenMarks escaped marks

/-- Parts of an interpolated text; blanks are escaped in its literal parts only. -/
def quoteParts (parts : List (List CodePoint × Bool)) : Text :=
  let (texts, marks) := parts.foldl
    (fun (texts, marks) (points, literal) =>
      let (escaped, marks) := withMarks points marks literal
      (texts ++ escaped, marks))
    ([], allMarks)
  betweenMarks texts marks

/-! ### Constants -/

def digitLimit : Nat := 4300

private def writeFloat (x : Binary64) : Text := if x.isInfinite then "1e309".toList else x.toText

private def writeImaginary (x : Binary64) : Text :=
  (if x.isInfinite then writeFloat x else x.toBareText) ++ ['j']

/-- `plain` asks for a quotation without backslashes. -/
def writeQuoted (plain marked : Bool) (points : List CodePoint) : Text :=
  let quoted := if plain then quotePlainly points else Text.quotePoints points
  if marked then 'u' :: quoted else quoted

def writeConstant (plain : Bool) : Constant → Except PrintFailure Text
  | .none => .ok "None".toList
  | .bool true => .ok "True".toList
  | .bool false => .ok "False".toList
  | .int n =>
      let digits := Text.digitsOf 10 n
      if digits.length > digitLimit then .error .tooManyDigits else .ok digits
  | .float x => .ok (writeFloat x)
  | .imaginary x => .ok (writeImaginary x)
  | .str text marked => .ok (writeQuoted plain marked (text.map .char))
  | .torn content marked => .ok (writeQuoted plain marked content.points)
  | .bytes content => .ok (Text.quoteBytes content)
  | .ellipsis => .ok "...".toList

def needsSpaceBeforeDot : Expr → Bool
  | .constant (.int _) | .constant (.bool _) => true
  | _ => false

private def doubleBraces (points : List CodePoint) : List CodePoint :=
  points.flatMap fun point =>
    if point = .char '\x7b' ∨ point = .char '\x7d' then [point, point] else [point]

private def comma : Text := [',', ' ']

/-- Items of a tuple; a single one keeps its comma. -/
def writeItems : List Text → Text
  | [single] => single ++ [',']
  | items => Text.join comma items

/-! ### Expressions -/

mutual
def write (plain : Bool) (around : Binding) (expr : Expr) : Except PrintFailure Text :=
  match expr with
  | .constant value => writeConstant plain value
  | .interpolated pieces => do
      let parts ← writePieces pieces
      let quoted :=
        if plain then quotePlainly (parts.map (·.1)).flatten else quoteParts parts
      pure ('f' :: quoted)
  | .name id => pure id
  | .attribute value attr => do
      let base ← value.write plain Binding.atom
      pure (base ++ (if value.needsSpaceBeforeDot then [' '] else []) ++ '.' :: attr)
  | .subscript value index => do
      let base ← value.write plain Binding.atom
      let inner ←
        match index with
        | .tuple (first :: rest) => do
            let items ← writeEach plain (first :: rest)
            pure (writeItems items)
        | index => index.write plain Binding.test
      pure (base ++ '[' :: inner ++ [']'])
  | .slice lower upper step => do
      let lower ← writeOption plain lower
      let upper ← writeOption plain upper
      let tail ←
        match step with
        | none => pure []
        | some step => do
            let step ← step.write plain Binding.test
            pure (':' :: step)
      pure (lower ++ ':' :: upper ++ tail)
  | .starred value => do
      let value ← value.write plain Binding.operator
      pure ('*' :: value)
  | .call function arguments keywords => do
      let function ← function.write plain Binding.atom
      let arguments ← writeEach plain arguments
      let keywords ← writeKeywords plain keywords
      pure (function ++ '(' :: Text.join comma (arguments ++ keywords) ++ [')'])
  | .unary op operand => do
      let operand ← operand.write plain op.binding
      pure (parenthesized (around > op.binding) (op.written ++ operand))
  | .binary op left right => do
      let binding := op.binding
      let isPower := decide (op = .power)
      let left ← left.write plain (if isPower then binding.tighter else binding)
      let right ← right.write plain (if isPower then binding else binding.tighter)
      pure (parenthesized (around > binding) (left ++ op.written ++ right))
  | .junction op operands => do
      let operands ← writeOperands plain op.binding.tighter operands
      pure (parenthesized (around > op.binding)
        (Text.join op.written operands))
  | .compare first others => do
      let first ← first.write plain Binding.comparison.tighter
      let others ← writeCompared plain others
      pure (parenthesized (around > Binding.comparison) (first ++ others))
  | .conditional test body alternative => do
      let body ← body.write plain Binding.test.tighter
      let test ← test.write plain Binding.test.tighter
      let alternative ← alternative.write plain Binding.test
      pure (parenthesized (around > Binding.test)
        (body ++ " if ".toList ++ test ++ " else ".toList ++ alternative))
  | .lambda parameters body => do
      let parameters ← writeParameters plain parameters
      let body ← body.write plain Binding.test
      let head := if parameters.isEmpty then [] else ' ' :: Text.join comma parameters
      pure (parenthesized (around > Binding.test)
        ("lambda".toList ++ head ++ ':' :: ' ' :: body))
  | .named target value => do
      let value ← value.write plain Binding.atom
      pure (parenthesized (around > Binding.tuple) (target ++ " := ".toList ++ value))
  | .tuple elements => do
      let items ← writeEach plain elements
      pure (parenthesized (items.isEmpty || around > Binding.tuple) (writeItems items))
  | .list elements => do
      let items ← writeEach plain elements
      pure ('[' :: Text.join comma items ++ [']'])
  | .set elements => do
      let items ← writeEach plain elements
      pure ('\x7b' :: Text.join comma items ++ ['\x7d'])
  | .dict entries => do
      let entries ← writeEntries plain entries
      pure ('\x7b' :: Text.join comma entries ++ ['\x7d'])
  | .comprehension kind element clauses => do
      let element ← element.write plain Binding.test
      let clauses ← writeClauses plain clauses
      let (opening, closing) :=
        match kind with
        | .list => ('[', ']')
        | .set => ('\x7b', '\x7d')
        | .generator => ('(', ')')
      pure (opening :: element ++ clauses ++ [closing])
  | .dictComprehension key value clauses => do
      let key ← key.write plain Binding.test
      let value ← value.write plain Binding.test
      let clauses ← writeClauses plain clauses
      pure ('\x7b' :: key ++ ':' :: ' ' :: value ++ clauses ++ ['\x7d'])
  | .await value => do
      let value ← value.write plain Binding.atom
      pure (parenthesized (around > Binding.await) ("await ".toList ++ value))
  | .yield value => do
      let value ←
        match value with
        | none => pure []
        | some value => do
            let value ← value.write plain Binding.atom
            pure (' ' :: value)
      pure (parenthesized (around > Binding.yield) ("yield".toList ++ value))
  | .yieldFrom value => do
      let value ← value.write plain Binding.atom
      pure (parenthesized (around > Binding.yield) ("yield from ".toList ++ value))
termination_by structural expr

def writeOption (plain : Bool) (expr : Option Expr) : Except PrintFailure Text :=
  match expr with
  | none => pure []
  | some expr => expr.write plain Binding.test
termination_by structural expr

def writeEach (plain : Bool) (exprs : List Expr) : Except PrintFailure (List Text) :=
  match exprs with
  | [] => pure []
  | expr :: rest => do
      let first ← expr.write plain Binding.test
      let others ← writeEach plain rest
      pure (first :: others)
termination_by structural exprs

/-- Each operand is written as if its surroundings bound more tightly than for the last. -/
def writeOperands (plain : Bool) (around : Binding) (exprs : List Expr) :
    Except PrintFailure (List Text) :=
  match exprs with
  | [] => pure []
  | expr :: rest => do
      let first ← expr.write plain around
      let others ← writeOperands plain around.tighter rest
      pure (first :: others)
termination_by structural exprs

def writeKeywords (plain : Bool) (keywords : List (Option Text × Expr)) :
    Except PrintFailure (List Text) :=
  match keywords with
  | [] => pure []
  | (label, value) :: rest => do
      let value ← value.write plain Binding.test
      let others ← writeKeywords plain rest
      let lead :=
        match label with
        | some label => label ++ ['=']
        | none => ['*', '*']
      pure ((lead ++ value) :: others)
termination_by structural keywords

def writeCompared (plain : Bool) (compared : List (CompareOp × Expr)) :
    Except PrintFailure Text :=
  match compared with
  | [] => pure []
  | (op, operand) :: rest => do
      let operand ← operand.write plain Binding.comparison.tighter
      let others ← writeCompared plain rest
      pure (op.written ++ operand ++ others)
termination_by structural compared

def writeEntries (plain : Bool) (entries : List (Option Expr × Expr)) :
    Except PrintFailure (List Text) :=
  match entries with
  | [] => pure []
  | (none, value) :: rest => do
      let value ← value.write plain Binding.operator
      let others ← writeEntries plain rest
      pure (('*' :: '*' :: value) :: others)
  | (some key, value) :: rest => do
      let key ← key.write plain Binding.test
      let value ← value.write plain Binding.test
      let others ← writeEntries plain rest
      pure ((key ++ ':' :: ' ' :: value) :: others)
termination_by structural entries

def writeParameters (plain : Bool) (parameters : List Parameter) :
    Except PrintFailure (List Text) :=
  match parameters with
  | [] => pure []
  | .plain label default :: rest => do
      let default ←
        match default with
        | none => pure []
        | some default => do
            let default ← default.write plain Binding.test
            pure ('=' :: default)
      let others ← writeParameters plain rest
      pure ((label ++ default) :: others)
  | .positionalEnd :: rest => do
      let others ← writeParameters plain rest
      pure (['/'] :: others)
  | .rest label :: rest => do
      let others ← writeParameters plain rest
      pure (('*' :: label.getD []) :: others)
  | .keywordRest label :: rest => do
      let others ← writeParameters plain rest
      pure (('*' :: '*' :: label) :: others)
termination_by structural parameters

def writeClauses (plain : Bool) (clauses : List Clause) : Except PrintFailure Text :=
  match clauses with
  | [] => pure []
  | .mk isAsync target source conditions :: rest => do
      let target ← target.write plain Binding.tuple
      let source ← source.write plain Binding.test.tighter
      let conditions ← writeConditions plain conditions
      let others ← writeClauses plain rest
      let lead := if isAsync then " async for ".toList else " for ".toList
      pure (lead ++ target ++ " in ".toList ++ source ++ conditions ++ others)
termination_by structural clauses

def writeConditions (plain : Bool) (conditions : List Expr) : Except PrintFailure Text :=
  match conditions with
  | [] => pure []
  | condition :: rest => do
      let first ← condition.write plain Binding.test.tighter
      let others ← writeConditions plain rest
      pure (" if ".toList ++ first ++ others)
termination_by structural conditions

def writePieces (pieces : List Piece) : Except PrintFailure (List (List CodePoint × Bool)) :=
  match pieces with
  | [] => pure []
  | .text content :: rest => do
      let others ← writePieces rest
      pure ((doubleBraces content, true) :: others)
  | .field value conversion spec :: rest => do
      let value ← value.write true Binding.test.tighter
      let spec ← writeSpec spec
      let others ← writePieces rest
      if value.contains '\\' then .error .backslashInField
      else
        let space := if value.head? == some '\x7b' then [' '] else []
        let conversion :=
          match conversion with
          | some c => ['!', c]
          | none => []
        let head := '\x7b' :: space ++ value ++ conversion
        pure ((head.map .char ++ spec ++ [.char '\x7d'], false) :: others)
termination_by structural pieces

def writeSpec (spec : Option (List Piece)) : Except PrintFailure (List CodePoint) :=
  match spec with
  | none => pure []
  | some pieces => do
      let parts ← writePieces pieces
      pure (.char ':' :: (parts.map (·.1)).flatten)
termination_by structural spec
end

def printDepth : Nat := 300

def print (expr : Expr) : Except PrintFailure Text :=
  if expr.depth > printDepth then .error .tooDeep else expr.write false Binding.test

end Expr

end CommentSchema
