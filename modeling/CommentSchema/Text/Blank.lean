import CommentSchema.Text.Basic

/-! White space and trimming.  A character is blank when Unicode counts it as a space, a
line or paragraph end, or one of the ASCII separators. -/

namespace CommentSchema.Text

def isBlank (c : Char) : Bool :=
  let n := c.toNat
  n == 0x20 || (0x09 ≤ n && n ≤ 0x0d) || (0x1c ≤ n && n ≤ 0x1f) || n == 0x85 || n == 0xa0
    || n == 0x1680 || (0x2000 ≤ n && n ≤ 0x200a) || n == 0x2028 || n == 0x2029
    || n == 0x202f || n == 0x205f || n == 0x3000

def trimLeft (text : Text) : Text := text.dropWhile isBlank

def trimRight : Text → Text
  | [] => []
  | c :: rest =>
      match trimRight rest with
      | [] => if isBlank c then [] else [c]
      | kept => c :: kept

def trim (text : Text) : Text := trimRight (trimLeft text)

def isAllBlank (text : Text) : Bool := text.all isBlank

end CommentSchema.Text
