import CommentSchema.Expr.Escape
import CommentSchema.Expr.Lexer

/-! Reading expressions from tokens, by recursive descent.  Each reader gives what it read
and the tokens after it; binary operators are read by how tightly they bind.  `steps` bounds
the recursion and is computed from the text in `Expr.read?`. -/

namespace CommentSchema.Expr

abbrev Tokens := List Token

/-- The operator and how tightly it binds, the loosest first. -/
def binaryOp? : Symbol → Option (BinaryOp × Nat)
  | .pipe => some (.bitOr, 0)
  | .caret => some (.bitXor, 1)
  | .ampersand => some (.bitAnd, 2)
  | .shiftLeft => some (.shiftLeft, 3)
  | .shiftRight => some (.shiftRight, 3)
  | .plus => some (.add, 4)
  | .minus => some (.subtract, 4)
  | .star => some (.multiply, 5)
  | .slash => some (.divide, 5)
  | .doubleSlash => some (.floorDivide, 5)
  | .percent => some (.modulo, 5)
  | .atSign => some (.matrixMultiply, 5)
  | _ => none

def compareOp? : Tokens → Option (CompareOp × Tokens)
  | .symbol .equal :: rest => some (.equal, rest)
  | .symbol .notEqual :: rest => some (.notEqual, rest)
  | .symbol .less :: rest => some (.less, rest)
  | .symbol .lessEqual :: rest => some (.lessEqual, rest)
  | .symbol .greater :: rest => some (.greater, rest)
  | .symbol .greaterEqual :: rest => some (.greaterEqual, rest)
  | .keyword .inWord :: rest => some (.member, rest)
  | .keyword .notWord :: .keyword .inWord :: rest => some (.notMember, rest)
  | .keyword .isWord :: .keyword .notWord :: rest => some (.notSame, rest)
  | .keyword .isWord :: rest => some (.same, rest)
  | _ => none

def expect? (symbol : Symbol) : Tokens → Option Tokens
  | .symbol found :: rest => if found = symbol then some rest else none
  | _ => none

def startsNamed : Tokens → Bool
  | .name _ :: .symbol .walrus :: _ => true
  | _ => false

def startsClauses : Tokens → Bool
  | .keyword .forWord :: _ | .keyword .asyncWord :: .keyword .forWord :: _ => true
  | _ => false

def isStarred : Expr → Bool
  | .starred _ => true
  | _ => false

mutual
def isTarget : Expr → Bool
  | .name _ | .attribute .. | .subscript .. => true
  | .starred value =>
      match value with
      | .starred _ => false
      | value => value.isTarget
  | .tuple elements | .list elements => areTargets elements
  | _ => false
termination_by structural expr => expr

def areTargets : List Expr → Bool
  | [] => true
  | expr :: rest => expr.isTarget && areTargets rest
termination_by structural exprs => exprs
end

/-! ### Quotations -/

private def keeping (kept : Text) (outcome : Option (Text × Text)) : Option (Text × Text) :=
  outcome.map fun (run, after) => (kept ++ run, after)

/-- What stands in front of the next character of literal text: a backslash, a backslash and the
letter that a name follows, or the beginning of such a name. -/
inductive LiteralPlace where
  | plain
  | escaped
  | naming
  | named
deriving DecidableEq

namespace LiteralPlace

def isAtName (place : LiteralPlace) : Bool := place = naming || place = named

def after (raw : Bool) (c : Char) : LiteralPlace → LiteralPlace
  | plain => if !raw && c == '\\' then escaped else plain
  | escaped => if c == 'N' then naming else plain
  | naming => if c == '\x7b' then named else plain
  | named => if c == '\x7d' then plain else named

end LiteralPlace

/-- Literal text of an interpolation up to a field or to the end.  Outermost braces are doubled,
and inside a format specification a closing brace ends it; those around a name are neither. -/
def literalRun? (raw nested : Bool) (place : LiteralPlace) : Text → Option (Text × Text)
  | [] => some ([], [])
  | c :: rest =>
      if place.isAtName then keeping [c] (literalRun? raw nested (place.after raw c) rest)
      else if c == '\x7b' then
        match nested, rest with
        | false, '\x7b' :: after => keeping [c] (literalRun? raw nested .plain after)
        | _, _ => some ([], c :: rest)
      else if c == '\x7d' then
        match nested, rest with
        | false, '\x7d' :: after => keeping [c] (literalRun? raw nested .plain after)
        | false, _ => none
        | true, _ => some ([], c :: rest)
      else keeping [c] (literalRun? raw nested (place.after raw c) rest)

structure InnerQuote where
  mark : Char
  tripled : Bool

private def closes (opening closing : Char) : Bool :=
  (opening == '(' && closing == ')') || (opening == '[' && closing == ']')
    || (opening == '\x7b' && closing == '\x7d')

/-- The source of a field's expression and the text from the mark that ends it.  `skip`
characters are taken as they are. -/
def fieldSource? (quote : Option InnerQuote) (openings : List Char) (skip : Nat) :
    Text → Option (Text × Text)
  | [] => none
  | c :: rest =>
      if c == '\\' then none
      else
        match skip, quote with
        | skip + 1, _ => keeping [c] (fieldSource? quote openings skip rest)
        | 0, some inner =>
            if c != inner.mark then keeping [c] (fieldSource? quote openings 0 rest)
            else if !inner.tripled then keeping [c] (fieldSource? none openings 0 rest)
            else if [c, c].isPrefixOf rest then keeping [c] (fieldSource? none openings 2 rest)
            else keeping [c] (fieldSource? quote openings 0 rest)
        | 0, none =>
            if Token.isQuote c then
              if [c, c].isPrefixOf rest then
                keeping [c] (fieldSource? (some ⟨c, true⟩) openings 2 rest)
              else keeping [c] (fieldSource? (some ⟨c, false⟩) openings 0 rest)
            else if c == '(' || c == '[' || c == '\x7b' then
              if openings.length < Token.bracketLimit then
                keeping [c] (fieldSource? none (c :: openings) 0 rest)
              else none
            else if c == '#' then none
            else
              match openings with
              | opening :: others =>
                  if c == ')' || c == ']' || c == '\x7d' then
                    if closes opening c then keeping [c] (fieldSource? none others 0 rest) else none
                  else keeping [c] (fieldSource? none openings 0 rest)
              | [] =>
                  if "!=<>".toList.contains c && ['='].isPrefixOf rest then
                    keeping [c] (fieldSource? none [] 1 rest)
                  else if "!:=\x7d".toList.contains c then some ([], c :: rest)
                  else if c == ')' || c == ']' then none
                  else keeping [c] (fieldSource? none [] 0 rest)

private def isFieldSpace (c : Char) : Bool := Token.isInlineSpace c || c == '\n'

private def mergePiece : Piece → List Piece → List Piece
  | .text content, .text next :: rest => .text (content ++ next) :: rest
  | .text [], rest => rest
  | piece, rest => piece :: rest

/-- Neighbouring literal texts are one, and an empty one is none. -/
def mergePieces (pieces : List Piece) : List Piece := pieces.foldr mergePiece []

def conversion? : Text → Option (Option Char × Text)
  | '!' :: c :: rest =>
      if c == 's' || c == 'r' || c == 'a' then some (some c, rest) else none
  | ['!'] => none
  | text => some (none, text)

/-- An equals sign after an expression shows the expression itself, with the blanks after it. -/
def shownSource (source : Text) : Text → Text × Text
  | '=' :: rest =>
      let blanks := rest.takeWhile fun c => isFieldSpace c || c == '\r' || c == '\x0b'
      (source ++ '=' :: blanks, rest.drop blanks.length)
  | text => ([], text)

variable [Dialect]

/-- The code points of a literal text. -/
def decoded? (raw : Bool) (literal : Text) : Option (List CodePoint) :=
  if raw then some (literal.map .char) else Escape.decode? literal

def plainQuotation? (quotation : Quotation) : Option (List CodePoint) :=
  decoded? quotation.raw quotation.body

def bytesQuotation? (quotation : Quotation) : Option (List UInt8) :=
  if quotation.raw then Escape.rawBytes? quotation.body else Escape.decodeBytes? quotation.body

def spanQuotations : Tokens → List Quotation × Tokens
  | .quotation quotation :: rest =>
      let (quotations, after) := spanQuotations rest
      (quotation :: quotations, after)
  | tokens => ([], tokens)

/-! ### Parameters -/

structure ParameterState where
  named : Bool := false
  defaulted : Bool := false
  ended : Bool := false
  starred : Bool := false
  awaiting : Bool := false
  closed : Bool := false

/-! ### Readers -/

def junctionOf (op : JunctionOp) : List Expr → Expr
  | [single] => single
  | operands => .junction op operands

def constantWord? : Keyword → Option Constant
  | .noneWord => some .none
  | .trueWord => some (.bool true)
  | .falseWord => some (.bool false)
  | _ => none

def unarySign? : Symbol → Option UnaryOp
  | .plus => some .plus
  | .minus => some .minus
  | .tilde => some .invert
  | _ => none

inductive ArgumentStage where
  | positional
  | keyword
  | unpacked
deriving DecidableEq

mutual
def readExpression (steps : Nat) (tokens : Tokens) : Option (Expr × Tokens) :=
  match steps with
  | 0 => none
  | steps + 1 =>
      match tokens with
      | .keyword .lambdaWord :: rest => do
          let (parameters, rest) ← readParameters steps {} rest
          let (body, rest) ← readExpression steps rest
          some (.lambda parameters body, rest)
      | tokens => do
          let (body, rest) ← readDisjunction steps tokens
          match rest with
          | .keyword .ifWord :: rest =>
              let (test, rest) ← readDisjunction steps rest
              match rest with
              | .keyword .elseWord :: rest =>
                  let (alternative, rest) ← readExpression steps rest
                  some (.conditional test body alternative, rest)
              | _ => none
          | rest => some (body, rest)

def readDisjunction (steps : Nat) (tokens : Tokens) : Option (Expr × Tokens) :=
  match steps with
  | 0 => none
  | steps + 1 => do
      let (operands, rest) ← readDisjuncts steps tokens
      some (junctionOf .disjunction operands, rest)

def readDisjuncts (steps : Nat) (tokens : Tokens) : Option (List Expr × Tokens) :=
  match steps with
  | 0 => none
  | steps + 1 => do
      let (first, rest) ← readConjuncts steps tokens
      let first := junctionOf .conjunction first
      match rest with
      | .keyword .orWord :: rest =>
          let (others, rest) ← readDisjuncts steps rest
          some (first :: others, rest)
      | rest => some ([first], rest)

def readConjuncts (steps : Nat) (tokens : Tokens) : Option (List Expr × Tokens) :=
  match steps with
  | 0 => none
  | steps + 1 => do
      let (first, rest) ← readInversion steps tokens
      match rest with
      | .keyword .andWord :: rest =>
          let (others, rest) ← readConjuncts steps rest
          some (first :: others, rest)
      | rest => some ([first], rest)

def readInversion (steps : Nat) (tokens : Tokens) : Option (Expr × Tokens) :=
  match steps with
  | 0 => none
  | steps + 1 =>
      match tokens with
      | .keyword .notWord :: rest => do
          let (operand, rest) ← readInversion steps rest
          some (.unary .negation operand, rest)
      | tokens => do
          let (first, rest) ← readOperators steps 0 tokens
          let (others, rest) ← readCompared steps rest
          some (if others.isEmpty then first else .compare first others, rest)

def readCompared (steps : Nat) (tokens : Tokens) : Option (List (CompareOp × Expr) × Tokens) :=
  match steps with
  | 0 => none
  | steps + 1 =>
      match compareOp? tokens with
      | some (op, rest) => do
          let (operand, rest) ← readOperators steps 0 rest
          let (others, rest) ← readCompared steps rest
          some ((op, operand) :: others, rest)
      | none => some ([], tokens)

/-- An operand and the operators after it that bind at least as tightly as `level`. -/
def readOperators (steps level : Nat) (tokens : Tokens) : Option (Expr × Tokens) :=
  match steps with
  | 0 => none
  | steps + 1 => do
      let (left, rest) ← readFactor steps tokens
      readMoreOperators steps level left rest

def readMoreOperators (steps level : Nat) (left : Expr) (tokens : Tokens) :
    Option (Expr × Tokens) :=
  match steps with
  | 0 => none
  | steps + 1 =>
      match tokens with
      | .symbol symbol :: rest =>
          match binaryOp? symbol with
          | some (op, binding) =>
              if level ≤ binding then do
                let (right, rest) ← readOperators steps (binding + 1) rest
                readMoreOperators steps level (.binary op left right) rest
              else some (left, tokens)
          | none => some (left, tokens)
      | _ => some (left, tokens)

def readFactor (steps : Nat) (tokens : Tokens) : Option (Expr × Tokens) :=
  match steps with
  | 0 => none
  | steps + 1 =>
      match tokens with
      | .symbol symbol :: rest =>
          match unarySign? symbol with
          | some op => do
              let (operand, rest) ← readFactor steps rest
              some (.unary op operand, rest)
          | none => readPower steps tokens
      | _ => readPower steps tokens

def readPower (steps : Nat) (tokens : Tokens) : Option (Expr × Tokens) :=
  match steps with
  | 0 => none
  | steps + 1 => do
      let (base, rest) ←
        match tokens with
        | .keyword .awaitWord :: rest => do
            let (value, rest) ← readPrimary steps rest
            some (.await value, rest)
        | tokens => readPrimary steps tokens
      match rest with
      | .symbol .doubleStar :: rest =>
          let (exponent, rest) ← readFactor steps rest
          some (.binary .power base exponent, rest)
      | rest => some (base, rest)

def readPrimary (steps : Nat) (tokens : Tokens) : Option (Expr × Tokens) :=
  match steps with
  | 0 => none
  | steps + 1 => do
      let (atom, rest) ← readAtom steps tokens
      readTrailers steps atom rest

def readTrailers (steps : Nat) (base : Expr) (tokens : Tokens) : Option (Expr × Tokens) :=
  match steps with
  | 0 => none
  | steps + 1 =>
      match tokens with
      | .symbol .dot :: .name attr :: rest => readTrailers steps (.attribute base attr) rest
      | .symbol .dot :: _ => none
      | .symbol .openParen :: rest => do
          let (arguments, keywords, rest) ← readArguments steps .positional true rest
          readTrailers steps (.call base arguments keywords) rest
      | .symbol .openBracket :: rest => do
          let (first, rest) ← readSlice steps rest
          match rest with
          | .symbol .comma :: rest =>
              let (others, rest) ← readSlices steps rest
              readTrailers steps (.subscript base (.tuple (first :: others))) rest
          | .symbol .closeBracket :: rest =>
              let index := if first.isStarred then .tuple [first] else first
              readTrailers steps (.subscript base index) rest
          | _ => none
      | _ => some (base, tokens)

def readAtom (steps : Nat) (tokens : Tokens) : Option (Expr × Tokens) :=
  match steps with
  | 0 => none
  | steps + 1 =>
      match tokens with
      | .name id :: rest => some (.name id, rest)
      | .number value :: rest => some (.constant value, rest)
      | .keyword word :: rest => (constantWord? word).map fun value => (.constant value, rest)
      | .symbol .ellipsis :: rest => some (.constant .ellipsis, rest)
      | .quotation _ :: _ => do
          let (quotations, rest) := spanQuotations tokens
          let value ← readQuotations steps quotations
          some (value, rest)
      | .symbol .openParen :: rest => readParenthesis steps rest
      | .symbol .openBracket :: rest =>
          match rest with
          | .symbol .closeBracket :: rest => some (.list [], rest)
          | rest => do
              let (first, rest) ← readElement steps rest
              if startsClauses rest then
                if first.isStarred then none
                else
                  let (clauses, rest) ← readClauses steps rest
                  let rest ← expect? .closeBracket rest
                  some (.comprehension .list first clauses, rest)
              else
                let (others, rest) ← readMoreElements steps .closeBracket rest
                some (.list (first :: others), rest)
      | .symbol .openBrace :: rest => readBrace steps rest
      | _ => none

def readParenthesis (steps : Nat) (tokens : Tokens) : Option (Expr × Tokens) :=
  match steps with
  | 0 => none
  | steps + 1 =>
      match tokens with
      | .symbol .closeParen :: rest => some (.tuple [], rest)
      | .keyword .yieldWord :: rest => do
          let (value, rest) ← readYield steps rest
          let rest ← expect? .closeParen rest
          some (value, rest)
      | tokens => do
          let (first, rest) ← readElement steps tokens
          if startsClauses rest then
            if first.isStarred then none
            else
              let (clauses, rest) ← readClauses steps rest
              let rest ← expect? .closeParen rest
              some (.comprehension .generator first clauses, rest)
          else
            match rest with
            | .symbol .closeParen :: rest => if first.isStarred then none else some (first, rest)
            | rest =>
                let (others, rest) ← readMoreElements steps .closeParen rest
                some (.tuple (first :: others), rest)

def readBrace (steps : Nat) (tokens : Tokens) : Option (Expr × Tokens) :=
  match steps with
  | 0 => none
  | steps + 1 =>
      match tokens with
      | .symbol .closeBrace :: rest => some (.dict [], rest)
      | .symbol .doubleStar :: _ => do
          let (entries, rest) ← readEntries steps tokens
          some (.dict entries, rest)
      | tokens => do
          let (first, rest) ← readElement steps tokens
          match rest with
          | .symbol .colon :: afterColon =>
              if startsNamed tokens || first.isStarred then none
              else
                let (value, rest) ← readExpression steps afterColon
                if startsClauses rest then
                  let (clauses, rest) ← readClauses steps rest
                  let rest ← expect? .closeBrace rest
                  some (.dictComprehension first value clauses, rest)
                else
                  match rest with
                  | .symbol .closeBrace :: rest => some (.dict [(some first, value)], rest)
                  | .symbol .comma :: rest =>
                      let (entries, rest) ← readEntries steps rest
                      some (.dict ((some first, value) :: entries), rest)
                  | _ => none
          | rest =>
              if startsClauses rest then
                if first.isStarred then none
                else
                  let (clauses, rest) ← readClauses steps rest
                  let rest ← expect? .closeBrace rest
                  some (.comprehension .set first clauses, rest)
              else
                let (others, rest) ← readMoreElements steps .closeBrace rest
                some (.set (first :: others), rest)

def readEntries (steps : Nat) (tokens : Tokens) :
    Option (List (Option Expr × Expr) × Tokens) :=
  match steps with
  | 0 => none
  | steps + 1 =>
      match tokens with
      | .symbol .closeBrace :: rest => some ([], rest)
      | tokens => do
          let (entry, rest) ←
            match tokens with
            | .symbol .doubleStar :: rest => do
                let (value, rest) ← readOperators steps 0 rest
                some ((none, value), rest)
            | tokens => do
                let (key, rest) ← readExpression steps tokens
                let rest ← expect? .colon rest
                let (value, rest) ← readExpression steps rest
                some ((some key, value), rest)
          match rest with
          | .symbol .closeBrace :: rest => some ([entry], rest)
          | .symbol .comma :: rest =>
              let (others, rest) ← readEntries steps rest
              some (entry :: others, rest)
          | _ => none

/-- An element of a display: an expression, one that is named, or one that is unpacked. -/
def readElement (steps : Nat) (tokens : Tokens) : Option (Expr × Tokens) :=
  match steps with
  | 0 => none
  | steps + 1 =>
      match tokens with
      | .symbol .star :: rest => do
          let (value, rest) ← readOperators steps 0 rest
          some (.starred value, rest)
      | tokens => readNamed steps tokens

def readNamed (steps : Nat) (tokens : Tokens) : Option (Expr × Tokens) :=
  match steps with
  | 0 => none
  | steps + 1 =>
      match tokens with
      | .name id :: .symbol .walrus :: rest => do
          let (value, rest) ← readExpression steps rest
          some (.named id value, rest)
      | tokens => do
          let (value, rest) ← readExpression steps tokens
          match rest with
          | .symbol .walrus :: _ => none
          | rest => some (value, rest)

def readMoreElements (steps : Nat) (closing : Symbol) (tokens : Tokens) :
    Option (List Expr × Tokens) :=
  match steps with
  | 0 => none
  | steps + 1 =>
      match tokens with
      | .symbol .comma :: rest =>
          match expect? closing rest with
          | some rest => some ([], rest)
          | none => do
              let (next, rest) ← readElement steps rest
              let (others, rest) ← readMoreElements steps closing rest
              some (next :: others, rest)
      | tokens => (expect? closing tokens).map fun rest => ([], rest)

def readSlices (steps : Nat) (tokens : Tokens) : Option (List Expr × Tokens) :=
  match steps with
  | 0 => none
  | steps + 1 =>
      match tokens with
      | .symbol .closeBracket :: rest => some ([], rest)
      | tokens => do
          let (first, rest) ← readSlice steps tokens
          match rest with
          | .symbol .closeBracket :: rest => some ([first], rest)
          | .symbol .comma :: rest =>
              let (others, rest) ← readSlices steps rest
              some (first :: others, rest)
          | _ => none

def readSlice (steps : Nat) (tokens : Tokens) : Option (Expr × Tokens) :=
  match steps with
  | 0 => none
  | steps + 1 =>
      match tokens with
      | .symbol .star :: rest => do
          let (value, rest) ← readExpression steps rest
          some (.starred value, rest)
      | .symbol .colon :: rest => readBounds steps none rest
      | tokens => do
          let (first, rest) ← readNamed steps tokens
          match rest with
          | .symbol .colon :: after =>
              if startsNamed tokens then none else readBounds steps (some first) after
          | rest => some (first, rest)

def readBounds (steps : Nat) (lower : Option Expr) (tokens : Tokens) : Option (Expr × Tokens) :=
  match steps with
  | 0 => none
  | steps + 1 => do
      let (upper, rest) ← readBound steps tokens
      match rest with
      | .symbol .colon :: rest =>
          let (step, rest) ← readBound steps rest
          some (.slice lower upper step, rest)
      | rest => some (.slice lower upper none, rest)

def readBound (steps : Nat) (tokens : Tokens) : Option (Option Expr × Tokens) :=
  match steps with
  | 0 => none
  | steps + 1 =>
      match tokens with
      | .symbol .colon :: _ | .symbol .comma :: _ | .symbol .closeBracket :: _ =>
          some (none, tokens)
      | tokens => (readExpression steps tokens).map fun (bound, rest) => (some bound, rest)

/-- The arguments of a call up to its closing parenthesis, positional ones first. -/
def readArguments (steps : Nat) (stage : ArgumentStage) (first : Bool) (tokens : Tokens) :
    Option (List Expr × List (Option Text × Expr) × Tokens) :=
  match steps with
  | 0 => none
  | steps + 1 =>
      match tokens with
      | .symbol .closeParen :: rest => some ([], [], rest)
      | .symbol .doubleStar :: rest => do
          let (value, rest) ← readExpression steps rest
          let (arguments, keywords, rest) ← readMoreArguments steps .unpacked rest
          some (arguments, (none, value) :: keywords, rest)
      | .symbol .star :: rest =>
          if stage = .unpacked then none
          else do
            let (value, rest) ← readExpression steps rest
            let (arguments, keywords, rest) ← readMoreArguments steps stage rest
            some (.starred value :: arguments, keywords, rest)
      | .name id :: .symbol .assign :: rest => do
          let (value, rest) ← readExpression steps rest
          let stage := if stage = .positional then .keyword else stage
          let (arguments, keywords, rest) ← readMoreArguments steps stage rest
          some (arguments, (some id, value) :: keywords, rest)
      | tokens =>
          if stage ≠ .positional then none
          else do
            let (value, rest) ← readNamed steps tokens
            if startsClauses rest then
              if !first then none
              else
                let (clauses, rest) ← readClauses steps rest
                let rest ← expect? .closeParen rest
                some ([.comprehension .generator value clauses], [], rest)
            else
              let (arguments, keywords, rest) ← readMoreArguments steps stage rest
              some (value :: arguments, keywords, rest)

/-- After an argument: the end, or a comma and whatever may follow. -/
def readMoreArguments (steps : Nat) (stage : ArgumentStage) (tokens : Tokens) :
    Option (List Expr × List (Option Text × Expr) × Tokens) :=
  match steps with
  | 0 => none
  | steps + 1 =>
      match tokens with
      | .symbol .closeParen :: rest => some ([], [], rest)
      | .symbol .comma :: rest => readArguments steps stage false rest
      | _ => none

def readClauses (steps : Nat) (tokens : Tokens) : Option (List Clause × Tokens) :=
  match steps with
  | 0 => none
  | steps + 1 => do
      let (isAsync, rest) ←
        match tokens with
        | .keyword .forWord :: rest => some (false, rest)
        | .keyword .asyncWord :: .keyword .forWord :: rest => some (true, rest)
        | _ => none
      let (targets, comma, rest) ← readTargets steps rest
      let target ←
        match targets, comma with
        | [], _ => none
        | [single], false => some single
        | targets, _ => some (.tuple targets)
      if !target.isTarget then none
      else
        let (source, rest) ← readDisjunction steps rest
        let (conditions, rest) ← readConditions steps rest
        let clause := Clause.mk isAsync target source conditions
        if startsClauses rest then
          let (others, rest) ← readClauses steps rest
          some (clause :: others, rest)
        else some ([clause], rest)

/-- Targets up to the word `in`, and whether a comma stands among them. -/
def readTargets (steps : Nat) (tokens : Tokens) : Option (List Expr × Bool × Tokens) :=
  match steps with
  | 0 => none
  | steps + 1 =>
      match tokens with
      | .keyword .inWord :: rest => some ([], false, rest)
      | tokens => do
          let (target, rest) ←
            match tokens with
            | .symbol .star :: rest => do
                let (value, rest) ← readPrimary steps rest
                some (.starred value, rest)
            | tokens => readPrimary steps tokens
          match rest with
          | .keyword .inWord :: rest => some ([target], false, rest)
          | .symbol .comma :: rest =>
              let (others, _, rest) ← readTargets steps rest
              some (target :: others, true, rest)
          | _ => none

def readConditions (steps : Nat) (tokens : Tokens) : Option (List Expr × Tokens) :=
  match steps with
  | 0 => none
  | steps + 1 =>
      match tokens with
      | .keyword .ifWord :: rest => do
          let (first, rest) ← readDisjunction steps rest
          let (others, rest) ← readConditions steps rest
          some (first :: others, rest)
      | tokens => some ([], tokens)

def readYield (steps : Nat) (tokens : Tokens) : Option (Expr × Tokens) :=
  match steps with
  | 0 => none
  | steps + 1 =>
      match tokens with
      | .keyword .fromWord :: rest => do
          let (value, rest) ← readExpression steps rest
          some (.yieldFrom value, rest)
      | .symbol .closeParen :: _ => some (.yield none, tokens)
      | tokens => do
          let (value, rest) ← readStarExpressions steps tokens
          some (.yield (some value), rest)

/-- One expression, or several that commas make a tuple; they may be unpacked. -/
def readStarExpressions (steps : Nat) (tokens : Tokens) : Option (Expr × Tokens) :=
  match steps with
  | 0 => none
  | steps + 1 => do
      let (first, rest) ← readStarExpression steps tokens
      match rest with
      | .symbol .comma :: rest =>
          let (others, rest) ← readMoreExpressions steps rest
          some (.tuple (first :: others), rest)
      | rest => some (first, rest)

def readMoreExpressions (steps : Nat) (tokens : Tokens) : Option (List Expr × Tokens) :=
  match steps with
  | 0 => none
  | steps + 1 =>
      match tokens with
      | [] | .symbol .closeParen :: _ => some ([], tokens)
      | tokens => do
          let (first, rest) ← readStarExpression steps tokens
          match rest with
          | .symbol .comma :: rest =>
              let (others, rest) ← readMoreExpressions steps rest
              some (first :: others, rest)
          | rest => some ([first], rest)

def readStarExpression (steps : Nat) (tokens : Tokens) : Option (Expr × Tokens) :=
  match steps with
  | 0 => none
  | steps + 1 =>
      match tokens with
      | .symbol .star :: rest => do
          let (value, rest) ← readOperators steps 0 rest
          some (.starred value, rest)
      | tokens => readExpression steps tokens

def readParameters (steps : Nat) (state : ParameterState) (tokens : Tokens) :
    Option (List Parameter × Tokens) :=
  match steps with
  | 0 => none
  | steps + 1 =>
      match tokens with
      | .symbol .colon :: rest => if state.awaiting then none else some ([], rest)
      | tokens =>
          if state.closed then none
          else
            match tokens with
            | .name id :: .symbol .assign :: rest => do
                let (default, rest) ← readExpression steps rest
                let state := { state with named := true, defaulted := true, awaiting := false }
                readMoreParameters steps state (.plain id (some default)) rest
            | .name id :: rest =>
                if state.defaulted && !state.starred then none
                else
                  let state := { state with named := true, awaiting := false }
                  readMoreParameters steps state (.plain id none) rest
            | .symbol .slash :: rest =>
                if !state.named || state.ended || state.starred then none
                else readMoreParameters steps { state with ended := true } .positionalEnd rest
            | .symbol .star :: rest =>
                if state.starred then none
                else
                  let state := { state with starred := true }
                  match rest with
                  | .name id :: rest => readMoreParameters steps state (.rest (some id)) rest
                  | .symbol .comma :: _ =>
                      readMoreParameters steps { state with awaiting := true } (.rest none) rest
                  | _ => none
            | .symbol .doubleStar :: .name id :: rest =>
                if state.awaiting then none
                else readMoreParameters steps { state with closed := true } (.keywordRest id) rest
            | _ => none

/-- After a parameter: the colon, or a comma and whatever may follow. -/
def readMoreParameters (steps : Nat) (state : ParameterState) (parameter : Parameter)
    (tokens : Tokens) : Option (List Parameter × Tokens) :=
  match steps with
  | 0 => none
  | steps + 1 =>
      match tokens with
      | .symbol .colon :: _ =>
          (readParameters steps state tokens).map fun (others, rest) => (parameter :: others, rest)
      | .symbol .comma :: rest =>
          (readParameters steps state rest).map fun (others, rest) => (parameter :: others, rest)
      | _ => none

/-- Neighbouring quotations are one constant; bytes stand with bytes only. -/
def readQuotations (steps : Nat) (quotations : List Quotation) : Option Expr :=
  match steps with
  | 0 => none
  | steps + 1 =>
      if quotations.all (·.bytes) then
        (quotations.mapM bytesQuotation?).map fun parts => .constant (.bytes parts.flatten)
      else if quotations.any (·.bytes) then none
      else if quotations.any (·.formatted) then
        (readPieces steps quotations).map fun pieces => .interpolated (mergePieces pieces)
      else
        (quotations.mapM plainQuotation?).map fun parts =>
          .constant (.quoted (quotations.head?.any (·.marked)) parts.flatten)

def readPieces (steps : Nat) (quotations : List Quotation) : Option (List Piece) :=
  match steps with
  | 0 => none
  | steps + 1 =>
      match quotations with
      | [] => some []
      | quotation :: others => do
          let others ← readPieces steps others
          if quotation.formatted then
            let (pieces, _) ← readInterpolated steps quotation.raw 0 quotation.body
            some (pieces ++ others)
          else
            let content ← plainQuotation? quotation
            some (.text content :: others)

/-- Literal text and fields in turn; `nesting` counts the format specifications around. -/
def readInterpolated (steps : Nat) (raw : Bool) (nesting : Nat) (text : Text) :
    Option (List Piece × Text) :=
  match steps with
  | 0 => none
  | steps + 1 => do
      let (literal, rest) ← literalRun? raw (nesting > 0) .plain text
      let points ← decoded? raw literal
      match rest with
      | '\x7b' :: rest =>
          if nesting ≥ 2 then none
          else
            let (field, rest) ← readField steps raw nesting rest
            let (others, rest) ← readInterpolated steps raw nesting rest
            some (.text points :: field ++ others, rest)
      | rest => some ([.text points], rest)

def readField (steps : Nat) (raw : Bool) (nesting : Nat) (text : Text) :
    Option (List Piece × Text) :=
  match steps with
  | 0 => none
  | steps + 1 => do
      let (source, rest) ← fieldSource? none [] 0 text
      if source.all isFieldSpace then none
      else
        let tokens ← Token.scan ('(' :: source ++ [')'])
        let (value, _) ← readStarExpressions steps tokens
        let (shown, rest) := shownSource source rest
        let (conversion, rest) ← conversion? rest
        let (spec, rest) ←
          match rest with
          | ':' :: rest =>
              (readInterpolated steps raw (nesting + 1) rest).map fun (spec, rest) =>
                (some (mergePieces spec), rest)
          | rest => some (none, rest)
        let conversion :=
          if !shown.isEmpty && spec.isNone && conversion.isNone then some 'r' else conversion
        match rest with
        | '\x7d' :: rest => some ([.text (shown.map .char), .field value conversion spec], rest)
        | _ => none
end

/-- One expression or more; commas make a tuple of them. -/
def readExpressions (steps : Nat) (tokens : Tokens) : Option (List Expr × Bool × Tokens) :=
  match steps with
  | 0 => none
  | steps + 1 => do
      let (first, rest) ← readExpression steps tokens
      match rest with
      | [.symbol .comma] => some ([first], true, [])
      | .symbol .comma :: rest =>
          let (others, _, rest) ← readExpressions steps rest
          some (first :: others, true, rest)
      | rest => some ([first], false, rest)

def read? (text : Text) : Option Expr := do
  let tokens ← Token.scan text
  match ← readExpressions (24 * (text.length + 2)) tokens with
  | ([single], false, []) => some single
  | (several, _, []) => some (.tuple several)
  | _ => none

end CommentSchema.Expr
