import CommentSchema.Value

/-! JSON text read into values.  A reader takes the text from where it stands and gives the
rest; a failure is located by how much text was left.  Beside the standard's grammar the
words `NaN`, `Infinity` and `-Infinity` are numbers, and of equal keys the last value counts. -/

namespace CommentSchema.Json

inductive Fault where
  | byteOrderMark
  | noValue
  | extraData
  | noPropertyName
  | noColon
  | noComma
  | controlCharacter
  | unterminated
  | badEscape
  | badUnicodeEscape
deriving DecidableEq, Repr

/-- `left` counts the characters from the fault to the end of the text. -/
inductive Failure where
  | malformed (fault : Fault) (left : Nat)
  | tooDeep
  | tooManyDigits (count : Nat)
deriving DecidableEq, Repr

structure Limits where
  nesting : Nat := 990
  digits : Nat := 4300

abbrev Outcome (α : Type) := Except Failure (α × Text)

def fail (fault : Fault) (rest : Text) : Outcome α := .error (.malformed fault rest.length)

def isSpace (c : Char) : Bool := c == ' ' || c == '\t' || c == '\n' || c == '\r'

def skipSpace (text : Text) : Text := text.dropWhile isSpace

def hex4? (a b c d : Char) : Option Nat :=
  if [a, b, c, d].all (Text.isDigitOf 16) then some (Text.numberOf 16 [a, b, c, d]) else none

def isHighSurrogate (n : Nat) : Bool := 0xd800 ≤ n && n < 0xdc00

def isLowSurrogate (n : Nat) : Bool := 0xdc00 ≤ n && n < 0xe000

def escaped? : Char → Option Char
  | '\x22' => some '\x22'
  | '\\' => some '\\'
  | '/' => some '/'
  | 'b' => some '\x08'
  | 'f' => some '\x0c'
  | 'n' => some '\n'
  | 'r' => some '\r'
  | 't' => some '\t'
  | _ => none

/-- Two escaped halves of a surrogate pair are one character. -/
def joinSurrogates : List Nat → List CodePoint
  | high :: low :: rest =>
      if isHighSurrogate high && isLowSurrogate low then
        .char (Char.ofNat (0x10000 + (high - 0xd800) * 0x400 + (low - 0xdc00)))
          :: joinSurrogates rest
      else .ofNat high :: joinSurrogates (low :: rest)
  | [code] => [.ofNat code]
  | [] => []

def prepend (code : Nat) : Outcome (List Nat) → Outcome (List Nat)
  | .ok (codes, rest) => .ok (code :: codes, rest)
  | .error failure => .error failure

/-- The codes of a string after its opening quote; `opening` is the text from that quote on. -/
def stringCodes (opening : Text) : Text → Outcome (List Nat)
  | [] => fail .unterminated opening
  | '\x22' :: rest => .ok ([], rest)
  | ['\\'] => fail .unterminated opening
  | '\\' :: 'u' :: a :: b :: c :: d :: rest =>
      match hex4? a b c d with
      | some code =>
          if rest.isEmpty then fail .badUnicodeEscape ('u' :: a :: b :: c :: d :: rest)
          else prepend code (stringCodes opening rest)
      | none => fail .badUnicodeEscape ('u' :: a :: b :: c :: d :: rest)
  | '\\' :: 'u' :: rest => fail .badUnicodeEscape ('u' :: rest)
  | '\\' :: c :: rest =>
      match escaped? c with
      | some meant => prepend meant.toNat (stringCodes opening rest)
      | none => fail .badEscape ('\\' :: c :: rest)
  | c :: rest =>
      if c.toNat < 0x20 then fail .controlCharacter (c :: rest)
      else prepend c.toNat (stringCodes opening rest)

def string (opening rest : Text) : Outcome (List CodePoint) :=
  (stringCodes opening rest).map fun (codes, rest) => (joinSurrogates codes, rest)

structure Numeral where
  negative : Bool
  whole : Text
  fraction : Option Text := none
  exponent : Option (Bool × Text) := none

def spanDecimal (text : Text) : Text × Text := Text.spanDigits 10 text.length text

def whole? : Text → Option (Text × Text)
  | '0' :: rest => some (['0'], rest)
  | c :: rest => if Text.isDigit c then some (spanDecimal (c :: rest)) else none
  | [] => none

def fraction : Text → Option Text × Text
  | '.' :: rest =>
      match spanDecimal rest with
      | ([], _) => (none, '.' :: rest)
      | (digits, after) => (some digits, after)
  | text => (none, text)

def exponent : Text → Option (Bool × Text) × Text
  | c :: rest =>
      if c == 'e' || c == 'E' then
        let (negative, body) :=
          match rest with
          | '-' :: body => (true, body)
          | '+' :: body => (false, body)
          | body => (false, body)
        match spanDecimal body with
        | ([], _) => (none, c :: rest)
        | (digits, after) => (some (negative, digits), after)
      else (none, c :: rest)
  | [] => (none, [])

def numeral? (text : Text) : Option (Numeral × Text) :=
  let (negative, unsigned) :=
    match text with
    | '-' :: rest => (true, rest)
    | rest => (false, rest)
  (whole? unsigned).map fun (whole, rest) =>
    let (fraction, rest) := fraction rest
    let (exponent, rest) := exponent rest
    (⟨negative, whole, fraction, exponent⟩, rest)

def signed (negative : Bool) (n : Nat) : Int :=
  if negative then -Int.ofNat n else Int.ofNat n

def Numeral.value (limits : Limits) (numeral : Numeral) : Except Failure Value :=
  match numeral.fraction, numeral.exponent with
  | none, none =>
      if numeral.whole.length > limits.digits then .error (.tooManyDigits numeral.whole.length)
      else .ok (.int (signed numeral.negative (Text.numberOf 10 numeral.whole)))
  | fraction, exponent =>
      let fraction := fraction.getD []
      let shift :=
        match exponent with
        | some (negative, digits) => signed negative (Text.numberOf 10 digits)
        | none => 0
      let size := Binary64.ofDecimal (Text.numberOf 10 (numeral.whole ++ fraction))
        (shift - Int.ofNat fraction.length)
      .ok (.float (if numeral.negative then size.neg else size))

def words : List (Text × Value) :=
  [("null".toList, .null), ("true".toList, .bool true), ("false".toList, .bool false),
    ("NaN".toList, .float .nan), ("Infinity".toList, .float .infinity),
    ("-Infinity".toList, .float Binary64.infinity.neg)]

def atom (limits : Limits) (text : Text) : Outcome Value :=
  match words.findSome? fun (word, value) =>
      (word.isPrefixOf? text).map fun rest => (value, rest) with
  | some found => .ok found
  | none =>
      match numeral? text with
      | some (numeral, rest) => (numeral.value limits).map fun value => (value, rest)
      | none => fail .noValue text

private theorem isDict_of_value {limits : Limits} {numeral : Numeral} {found : Value}
    (success : numeral.value limits = .ok found) : found.isDict = false := by
  unfold Numeral.value at success
  split at success
  · split at success
    · cases success
    · cases success
      rfl
  · cases success
    rfl

/-- Words and numbers are no dictionaries. -/
theorem isDict_of_atom {limits : Limits} {text rest : Text} {found : Value}
    (success : atom limits text = .ok (found, rest)) : found.isDict = false := by
  have plain : ∀ entry ∈ words, entry.2.isDict = false := by decide
  unfold atom at success
  split at success
  · next read =>
      obtain ⟨entry, member, same⟩ := List.exists_of_findSome?_eq_some read
      cases success
      obtain ⟨_, -, same⟩ := Option.map_eq_some_iff.mp same
      cases same
      exact plain entry member
  · split at success
    · next numeral after _ =>
        cases read : numeral.value limits with
        | error failure =>
            rw [read] at success
            cases success
        | ok value =>
            rw [read] at success
            cases success
            exact isDict_of_value read
    · cases success

mutual
/-- `steps` bounds the recursion and `depth` the nesting that is still allowed. -/
def value (limits : Limits) (steps depth : Nat) (text : Text) : Outcome Value :=
  match steps with
  | 0 => .error .tooDeep
  | steps + 1 =>
      match text with
      | '\x22' :: rest => (string text rest).map fun (points, rest) => (.ofPoints points, rest)
      | '[' :: rest =>
          match depth with
          | 0 => .error .tooDeep
          | depth + 1 =>
              match skipSpace rest with
              | ']' :: rest => .ok (.list [], rest)
              | rest => (items limits steps depth rest).map fun (items, rest) => (.list items, rest)
      | '{' :: rest =>
          match depth with
          | 0 => .error .tooDeep
          | depth + 1 =>
              match skipSpace rest with
              | '}' :: rest => .ok (.dict [], rest)
              | rest =>
                  (members limits steps depth rest).map fun (members, rest) =>
                    (Value.ofEntries members, rest)
      | _ => atom limits text

def items (limits : Limits) (steps depth : Nat) (text : Text) :
    Except Failure (List Value × Text) :=
  match steps with
  | 0 => .error .tooDeep
  | steps + 1 => do
      let (first, rest) ← value limits steps depth text
      match skipSpace rest with
      | ']' :: rest => .ok ([first], rest)
      | ',' :: rest =>
          let (others, rest) ← items limits steps depth (skipSpace rest)
          .ok (first :: others, rest)
      | rest => fail .noComma rest

def members (limits : Limits) (steps depth : Nat) (text : Text) :
    Except Failure (List (Value × Value) × Text) :=
  match steps with
  | 0 => .error .tooDeep
  | steps + 1 =>
      match text with
      | '\x22' :: afterQuote => do
          let (name, rest) ← string text afterQuote
          match skipSpace rest with
          | ':' :: rest =>
              let (content, rest) ← value limits steps depth (skipSpace rest)
              match skipSpace rest with
              | '}' :: rest => .ok ([(.ofPoints name, content)], rest)
              | ',' :: rest =>
                  let (others, rest) ← members limits steps depth (skipSpace rest)
                  .ok ((.ofPoints name, content) :: others, rest)
              | rest => fail .noComma rest
          | rest => fail .noColon rest
      | _ => fail .noPropertyName text
end

/-- The value of a whole text, blank space around it aside. -/
def read (limits : Limits) (text : Text) : Except Failure Value :=
  match text with
  | '\ufeff' :: _ => .error (.malformed .byteOrderMark text.length)
  | _ => do
      let (found, rest) ← value limits (2 * text.length + 2) limits.nesting (skipSpace text)
      match skipSpace rest with
      | [] => .ok found
      | rest => .error (.malformed .extraData rest.length)

def Fault.message : Fault → Text
  | .byteOrderMark => "Unexpected UTF-8 BOM (decode using utf-8-sig)".toList
  | .noValue => "Expecting value".toList
  | .extraData => "Extra data".toList
  | .noPropertyName => "Expecting property name enclosed in double quotes".toList
  | .noColon => "Expecting ':' delimiter".toList
  | .noComma => "Expecting ',' delimiter".toList
  | .controlCharacter => "Invalid control character at".toList
  | .unterminated => "Unterminated string starting at".toList
  | .badEscape => "Invalid \\escape".toList
  | .badUnicodeEscape => "Invalid \\uXXXX escape".toList

/-- Line and column, both from one, of the place with `left` characters after it. -/
def lineAndColumn (text : Text) (left : Nat) : Nat × Nat :=
  let before := Text.lines (text.take (text.length - left))
  (before.length, (before.getLastD []).length + 1)

end CommentSchema.Json
