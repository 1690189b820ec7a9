import CommentSchema.Expr.Basic

/-! What expressions take from outside: the names of characters, the words in which the notation
refuses a text, whether a null character is a fault of the notation at all, and how far the stack
reaches.  The dialect at hand knows the names of the printable characters of ASCII, in any case,
and its stack holds everything. -/

namespace CommentSchema

/-- Where the stack gives out: while a type is built, or while a text quoted in it is read. -/
inductive Exhaustion where
  | building
  | reading (text : Text)
deriving DecidableEq, Repr

class Dialect where
  named? : Text → Option Char
  /-- What is said of a text that is no expression. -/
  complaint : Text → Text
  /-- A null character is a value out of range, and no fault of the notation. -/
  nullUnfit : Bool
  /-- Where the stack gives out on the way to the definition of a type, if it does. -/
  exhaustion? : Expr → Option Exhaustion

namespace Dialect

def letterNames (kind : String) (first : Char) : List (Text × Char) :=
  (List.range 26).map fun n =>
    ("LATIN ".toList ++ kind.toList ++ " LETTER ".toList ++ [Char.ofNat ('A'.toNat + n)],
      Char.ofNat (first.toNat + n))

def digitNames : List (Text × Char) :=
  [("ZERO", '0'), ("ONE", '1'), ("TWO", '2'), ("THREE", '3'), ("FOUR", '4'), ("FIVE", '5'),
    ("SIX", '6'), ("SEVEN", '7'), ("EIGHT", '8'), ("NINE", '9')].map fun (name, digit) =>
      ("DIGIT ".toList ++ name.toList, digit)

def signNames : List (Text × Char) :=
  [("SPACE", ' '), ("EXCLAMATION MARK", '!'), ("QUOTATION MARK", '\x22'), ("NUMBER SIGN", '#'),
    ("DOLLAR SIGN", '$'), ("PERCENT SIGN", '%'), ("AMPERSAND", '&'), ("APOSTROPHE", '\x27'),
    ("LEFT PARENTHESIS", '('), ("RIGHT PARENTHESIS", ')'), ("ASTERISK", '*'), ("PLUS SIGN", '+'),
    ("COMMA", ','), ("HYPHEN-MINUS", '-'), ("FULL STOP", '.'), ("SOLIDUS", '/'), ("COLON", ':'),
    ("SEMICOLON", ';'), ("LESS-THAN SIGN", '<'), ("EQUALS SIGN", '='),
    ("GREATER-THAN SIGN", '>'), ("QUESTION MARK", '?'), ("COMMERCIAL AT", '@'),
    ("LEFT SQUARE BRACKET", '['), ("REVERSE SOLIDUS", '\\'), ("RIGHT SQUARE BRACKET", ']'),
    ("CIRCUMFLEX ACCENT", '^'), ("LOW LINE", '_'), ("GRAVE ACCENT", '\x60'),
    ("LEFT CURLY BRACKET", '\x7b'), ("VERTICAL LINE", '|'), ("RIGHT CURLY BRACKET", '\x7d'),
    ("TILDE", '~')].map fun (name, c) => (name.toList, c)

def asciiNames : List (Text × Char) :=
  signNames ++ digitNames ++ letterNames "CAPITAL" 'A' ++ letterNames "SMALL" 'a'

end Dialect

instance : Dialect where
  named? name := Dialect.asciiNames.lookup (name.map Char.toUpper)
  complaint _ := "invalid syntax".toList
  nullUnfit := true
  exhaustion? _ := none

end CommentSchema
