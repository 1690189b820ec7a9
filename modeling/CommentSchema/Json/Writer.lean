import CommentSchema.Binary64.Shortest
import CommentSchema.Value

/-! Values written as JSON, with a blank after every comma and colon.  Characters outside of
ASCII are escaped or written as they are.  Tuples are written like lists; what JSON has no
notation for is left empty. -/

namespace CommentSchema.Json

/-- The letter that stands behind a backslash for a character. -/
def letter? : Char → Option Char
  | '\x22' => some '\x22'
  | '\\' => some '\\'
  | '\x08' => some 'b'
  | '\x0c' => some 'f'
  | '\n' => some 'n'
  | '\r' => some 'r'
  | '\t' => some 't'
  | _ => none

def escapeUnit (unit : Nat) : Text := '\\' :: 'u' :: Text.hexPadded 4 unit

/-- A character that one escape has no room for is written as two surrogate halves. -/
def escapeCode (code : Nat) : Text :=
  if code < 0x10000 then escapeUnit code
  else
    escapeUnit (0xd800 + (code - 0x10000) / 0x400)
      ++ escapeUnit (0xdc00 + (code - 0x10000) % 0x400)

def escapeChar (ascii : Bool) (c : Char) : Text :=
  match letter? c with
  | some letter => ['\\', letter]
  | none =>
      if c.toNat < 0x20 || (ascii && 0x7e < c.toNat) then escapeCode c.toNat else [c]

def quote (ascii : Bool) (text : Text) : Text :=
  '\x22' :: text.flatMap (escapeChar ascii) ++ ['\x22']

/-- A half of a surrogate pair can only be escaped. -/
def quoteTorn (content : Torn) : Text :=
  let escapePoint : CodePoint → Text
    | .char c => escapeChar true c
    | .half offset => escapeUnit (CodePoint.half offset).toNat
  '\x22' :: content.points.flatMap escapePoint ++ ['\x22']

def writeFloat (x : Binary64) : Text :=
  if x.isNaN then "NaN".toList
  else if x.isInfinite then if x.isNegative then "-Infinity".toList else "Infinity".toList
  else x.toText

mutual
def write (ascii : Bool) (value : Value) : Text :=
  match value with
  | .null => "null".toList
  | .bool true => "true".toList
  | .bool false => "false".toList
  | .int n => Text.ofInt n
  | .float x => writeFloat x
  | .str text => quote ascii text
  | .torn content => quoteTorn content
  | .list items | .tuple items => '[' :: Text.join [',', ' '] (writeEach ascii items) ++ [']']
  | .dict entries =>
      '\x7b' :: Text.join [',', ' '] (writeEntries ascii entries) ++ ['\x7d']
  | .complex .. | .bytes _ | .ellipsis | .set _ => []
termination_by structural value

def writeEach (ascii : Bool) (items : List Value) : List Text :=
  match items with
  | [] => []
  | item :: rest => write ascii item :: writeEach ascii rest
termination_by structural items

/-- A key that is no text is quoted as it is written. -/
def writeEntries (ascii : Bool) (entries : List (Value × Value)) : List Text :=
  match entries with
  | [] => []
  | (.str name, value) :: rest =>
      (quote ascii name ++ ':' :: ' ' :: write ascii value) :: writeEntries ascii rest
  | (.torn name, value) :: rest =>
      (quoteTorn name ++ ':' :: ' ' :: write ascii value) :: writeEntries ascii rest
  | (key, value) :: rest =>
      (quote ascii (write ascii key) ++ ':' :: ' ' :: write ascii value)
        :: writeEntries ascii rest
termination_by structural entries
end

end CommentSchema.Json
