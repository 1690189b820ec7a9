import CommentSchema.Text.CodePoint
import CommentSchema.Text.Digits
import CommentSchema.Text.Printable

/-! Quoted text.  The single quote is used unless the text holds one and no double quote;
the backslash, the quote in use and whatever is not printable are escaped. -/

namespace CommentSchema.Text

def quoteMark (text : Text) : Char :=
  if text.contains '\x27' && !text.contains '\x22' then '\x22' else '\x27'

/-- The shortest of the escapes with two, four or eight hexadecimal digits. -/
def escapeCode (n : Nat) : Text :=
  if n < 0x100 then '\\' :: 'x' :: hexPadded 2 n
  else if n < 0x10000 then '\\' :: 'u' :: hexPadded 4 n
  else '\\' :: 'U' :: hexPadded 8 n

def escapeUnprintable (c : Char) : Text :=
  if c == '\n' then ['\\', 'n']
  else if c == '\r' then ['\\', 'r']
  else if c == '\t' then ['\\', 't']
  else if isPrintable c then [c]
  else escapeCode c.toNat

def escapeFor (mark c : Char) : Text :=
  if c == mark || c == '\\' then ['\\', c] else escapeUnprintable c

/-- A half of a surrogate pair cannot be shown. -/
def escapePoint (escape : Char → Text) : CodePoint → Text
  | .char c => escape c
  | .half offset => escapeCode (CodePoint.half offset).toNat

def quotePoints (points : List CodePoint) : Text :=
  let mark := quoteMark (points.filterMap CodePoint.char?)
  mark :: points.flatMap (escapePoint (escapeFor mark)) ++ [mark]

def quote (text : Text) : Text := quotePoints (text.map .char)

theorem quote_eq (text : Text) : quote text =
    quoteMark text :: text.flatMap (escapeFor (quoteMark text)) ++ [quoteMark text] := by
  have chars : (text.map CodePoint.char).filterMap CodePoint.char? = text := by
    rw [List.filterMap_map]
    exact List.filterMap_some
  rw [quote, quotePoints, chars, List.flatMap_map]
  rfl

private def escapeByte (mark : Char) (byte : UInt8) : Text :=
  let c := Char.ofNat byte.toNat
  if c == mark || c == '\\' then ['\\', c]
  else if c == '\n' then ['\\', 'n']
  else if c == '\r' then ['\\', 'r']
  else if c == '\t' then ['\\', 't']
  else if 0x20 ≤ byte && byte < 0x7f then [c]
  else '\\' :: 'x' :: hexPadded 2 byte.toNat

def quoteBytes (bytes : List UInt8) : Text :=
  let mark := quoteMark (bytes.map fun byte => Char.ofNat byte.toNat)
  'b' :: mark :: bytes.flatMap (escapeByte mark) ++ [mark]

end CommentSchema.Text
