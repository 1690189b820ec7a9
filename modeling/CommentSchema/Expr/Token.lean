import CommentSchema.Expr.Basic
import CommentSchema.Text.Identifier
import CommentSchema.Text.Normal

/-! Tokens of the expression notation, and the readers of single tokens.  A reader gives
the token and the text after it, or nothing where the text is no token. -/

namespace CommentSchema

/-- Words that are no names.  Those that never stand in an expression are `reserved`. -/
inductive Keyword where
  | andWord
  | asyncWord
  | awaitWord
  | elseWord
  | falseWord
  | forWord
  | fromWord
  | ifWord
  | inWord
  | isWord
  | lambdaWord
  | noneWord
  | notWord
  | orWord
  | trueWord
  | yieldWord
  | reserved
deriving DecidableEq, Repr

inductive Symbol where
  | openParen
  | closeParen
  | openBracket
  | closeBracket
  | openBrace
  | closeBrace
  | comma
  | colon
  | walrus
  | dot
  | ellipsis
  | assign
  | star
  | doubleStar
  | plus
  | minus
  | slash
  | doubleSlash
  | percent
  | atSign
  | ampersand
  | pipe
  | caret
  | tilde
  | shiftLeft
  | shiftRight
  | less
  | lessEqual
  | greater
  | greaterEqual
  | equal
  | notEqual
  | other
deriving DecidableEq, Repr

structure Quotation where
  raw : Bool := false
  bytes : Bool := false
  formatted : Bool := false
  marked : Bool := false
  body : Text
deriving DecidableEq, Repr

inductive Token where
  | name (id : Text)
  | keyword (word : Keyword)
  | number (value : Constant)
  | quotation (quotation : Quotation)
  | symbol (symbol : Symbol)
deriving DecidableEq, Repr

namespace Token

def keywords : List (Text × Keyword) :=
  [("and".toList, .andWord), ("async".toList, .asyncWord), ("await".toList, .awaitWord),
    ("else".toList, .elseWord), ("False".toList, .falseWord), ("for".toList, .forWord),
    ("from".toList, .fromWord), ("if".toList, .ifWord), ("in".toList, .inWord),
    ("is".toList, .isWord), ("lambda".toList, .lambdaWord), ("None".toList, .noneWord),
    ("not".toList, .notWord), ("or".toList, .orWord), ("True".toList, .trueWord),
    ("yield".toList, .yieldWord)]
  ++ ["as", "assert", "break", "class", "continue", "def", "del", "elif", "except", "finally",
    "global", "import", "nonlocal", "pass", "raise", "return", "try", "while", "with"].map
      fun word => (word.toList, .reserved)

/-- Longer symbols stand before their beginnings. -/
def symbols : List (Text × Symbol) :=
  ([("...", .ellipsis), ("**=", .other), ("//=", .other), ("<<=", .other), (">>=", .other),
    ("**", .doubleStar), ("//", .doubleSlash), ("<<", .shiftLeft), (">>", .shiftRight),
    ("<=", .lessEqual), (">=", .greaterEqual), ("==", .equal), ("!=", .notEqual),
    ("<>", .other), (":=", .walrus), ("->", .other), ("+=", .other), ("-=", .other),
    ("*=", .other), ("/=", .other), ("%=", .other), ("@=", .other), ("&=", .other),
    ("|=", .other), ("^=", .other), ("(", .openParen), (")", .closeParen),
    ("[", .openBracket), ("]", .closeBracket), ("\x7b", .openBrace), ("\x7d", .closeBrace),
    (",", .comma), (":", .colon), (".", .dot), ("=", .assign), ("*", .star), ("+", .plus),
    ("-", .minus), ("/", .slash), ("%", .percent), ("@", .atSign), ("&", .ampersand),
    ("|", .pipe), ("^", .caret), ("~", .tilde), ("<", .less), (">", .greater),
    (";", .other)] : List (String × Symbol)).map fun (written, meaning) => (written.toList, meaning)

def isIdentifierByte (c : Char) : Bool := c.toNat ≥ 0x80 || c.isAlphanum || c == '_'

/-- A word of the notation or a name in its normal form; what begins like a name but is none
is refused. -/
def word? (word : Text) : Option Token :=
  match keywords.lookup word with
  | some meaning => some (.keyword meaning)
  | none => if Text.isIdentifier word then some (.name (Text.Normal.normalize word)) else none

def symbol? (text : Text) : Option (Token × Text) :=
  symbols.findSome? fun (written, meaning) =>
    (written.isPrefixOf? text).map fun rest => (.symbol meaning, rest)

/-- Digits in groups with single underscores between them, the underscores left out. -/
def digitGroups (base : Nat) : Text → Option (Text × Text)
  | [] => some ([], [])
  | '_' :: rest =>
      match rest with
      | next :: _ => if Text.isDigitOf base next then digitGroups base rest else none
      | [] => none
  | c :: rest =>
      if Text.isDigitOf base c then
        (digitGroups base rest).map fun (digits, after) => (c :: digits, after)
      else some ([], c :: rest)

private def endingWords : List Text :=
  ["and", "else", "for", "if", "in", "is", "not", "or"].map String.toList

/-- A number may run into one of a few words and into nothing else that names are made of. -/
def endsNumber : Text → Bool
  | [] => true
  | c :: rest => !isIdentifierByte c || endingWords.any (·.isPrefixOf (c :: rest))

def digitLimit : Nat := 4300

def based? (base : Nat) (text : Text) : Option (Constant × Text) :=
  match digitGroups base text with
  | some (digits, rest) =>
      if digits.isEmpty || !endsNumber rest then none
      else some (.int (Text.numberOf base digits), rest)
  | none => none

def fraction? : Text → Option (Option Text × Text)
  | '.' :: next :: rest =>
      if Text.isDigit next then
        (digitGroups 10 (next :: rest)).map fun (digits, after) => (some digits, after)
      else some (some [], next :: rest)
  | ['.'] => some (some [], [])
  | text => some (none, text)

/-- An exponent with its sign.  A letter `e` that no digits follow is left where it is, but a
sign after it has to be followed by digits. -/
def exponent? : Text → Option (Option Int × Text)
  | c :: rest =>
      if c == 'e' || c == 'E' then
        match rest with
        | '-' :: next :: body =>
            if Text.isDigit next then
              (digitGroups 10 (next :: body)).map fun (digits, after) =>
                (some (-Int.ofNat (Text.numberOf 10 digits)), after)
            else none
        | '+' :: next :: body =>
            if Text.isDigit next then
              (digitGroups 10 (next :: body)).map fun (digits, after) =>
                (some (Int.ofNat (Text.numberOf 10 digits)), after)
            else none
        | ['-'] | ['+'] => none
        | next :: body =>
            if Text.isDigit next then
              (digitGroups 10 (next :: body)).map fun (digits, after) =>
                (some (Int.ofNat (Text.numberOf 10 digits)), after)
            else some (none, c :: rest)
        | [] => some (none, [c])
      else some (none, c :: rest)
  | [] => some (none, [])

def decimal? (text : Text) : Option (Constant × Text) := do
  let (whole, rest) ← digitGroups 10 text
  let (fraction, rest) ← fraction? rest
  let (exponent, rest) ← exponent? rest
  let size :=
    Binary64.ofDecimal (Text.numberOf 10 (whole ++ fraction.getD []))
      (exponent.getD 0 - Int.ofNat (fraction.getD []).length)
  match rest with
  | 'j' :: rest | 'J' :: rest => if endsNumber rest then some (.imaginary size, rest) else none
  | rest =>
      if !endsNumber rest then none
      else if fraction.isSome || exponent.isSome then some (.float size, rest)
      else if whole.length > digitLimit && whole.any (· != '0') then none
      else if whole.head? == some '0' && whole.any (· != '0') then none
      else some (.int (Text.numberOf 10 whole), rest)

def number? : Text → Option (Constant × Text)
  | '0' :: c :: rest =>
      if c == 'x' || c == 'X' then based? 16 rest
      else if c == 'o' || c == 'O' then based? 8 rest
      else if c == 'b' || c == 'B' then based? 2 rest
      else decimal? ('0' :: c :: rest)
  | text => decimal? text

/-- Up to the closing quote, on one line; an escaped character does not close. -/
def lineBody? (mark : Char) : Text → Option (Text × Text)
  | [] => none
  | '\\' :: c :: rest => (lineBody? mark rest).map fun (body, after) => ('\\' :: c :: body, after)
  | c :: rest =>
      if c == mark then some ([], rest)
      else if c == '\n' then none
      else (lineBody? mark rest).map fun (body, after) => (c :: body, after)

def blockBody? (mark : Char) : Text → Option (Text × Text)
  | [] => none
  | '\\' :: c :: rest => (blockBody? mark rest).map fun (body, after) => ('\\' :: c :: body, after)
  | c :: rest =>
      match (List.replicate 3 mark).isPrefixOf? (c :: rest) with
      | some after => some ([], after)
      | none => (blockBody? mark rest).map fun (body, after) => (c :: body, after)

def isQuote (c : Char) : Bool := c == '\x27' || c == '\x22'

def quoted? : Text → Option (Text × Text)
  | [] => none
  | mark :: rest =>
      match [mark, mark].isPrefixOf? rest with
      | some rest => blockBody? mark rest
      | none => lineBody? mark rest

/-- What a word right before a quote says about the quoted text. -/
def quotationMarks? (word : Text) : Option (Text → Quotation) :=
  let lower := word.map Char.toLower
  if lower == ['r'] then some fun body => { raw := true, body }
  else if lower == ['u'] then some fun body => { marked := word == ['u'], body }
  else if lower == ['b'] then some fun body => { bytes := true, body }
  else if lower == ['f'] then some fun body => { formatted := true, body }
  else if lower == ['b', 'r'] || lower == ['r', 'b'] then
    some fun body => { raw := true, bytes := true, body }
  else if lower == ['f', 'r'] || lower == ['r', 'f'] then
    some fun body => { raw := true, formatted := true, body }
  else none

def startsQuotation : Text → Bool
  | c :: _ => isQuote c
  | [] => false

def wordOrQuotation? (text : Text) : Option (Token × Text) :=
  let word := text.takeWhile isIdentifierByte
  let rest := text.dropWhile isIdentifierByte
  match quotationMarks? word, startsQuotation rest with
  | some make, true => (quoted? rest).map fun (body, after) => (.quotation (make body), after)
  | _, _ => (word? word).map fun token => (token, rest)

def next? : Text → Option (Token × Text)
  | [] => none
  | c :: rest =>
      if Text.isDigit c || (c == '.' && (rest.head?.any Text.isDigit)) then
        (number? (c :: rest)).map fun (value, after) => (.number value, after)
      else if isQuote c then
        (quoted? (c :: rest)).map fun (body, after) => (.quotation { body }, after)
      else if isIdentifierByte c then wordOrQuotation? (c :: rest)
      else symbol? (c :: rest)

def isOpening : Token → Bool
  | .symbol .openParen | .symbol .openBracket | .symbol .openBrace => true
  | _ => false

def isClosing : Token → Bool
  | .symbol .closeParen | .symbol .closeBracket | .symbol .closeBrace => true
  | _ => false

end Token

end CommentSchema
