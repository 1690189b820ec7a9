import CommentSchema.Text.Basic

/-! Character classes given as ascending ranges of code points. -/

namespace CommentSchema.Text

def inRanges : List (Nat × Nat) → Nat → Bool
  | [], _ => false
  | (low, high) :: rest, n => if n < low then false else n ≤ high || inRanges rest n

end CommentSchema.Text
