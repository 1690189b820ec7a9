import CommentSchema.Text.Basic

/-! Digits: the value of a digit character, numbers read from digits and numbers written
in a base up to sixteen. -/

namespace CommentSchema.Text

def isDigit (c : Char) : Bool := '0' ≤ c && c ≤ '9'

def digitValue? (c : Char) : Option Nat :=
  if '0' ≤ c && c ≤ '9' then some (c.toNat - '0'.toNat)
  else if 'a' ≤ c && c ≤ 'f' then some (c.toNat - 'a'.toNat + 10)
  else if 'A' ≤ c && c ≤ 'F' then some (c.toNat - 'A'.toNat + 10)
  else none

def isDigitOf (base : Nat) (c : Char) : Bool :=
  match digitValue? c with
  | some value => value < base
  | none => false

/-- Characters that are no digits count as zero. -/
def numberOf (base : Nat) (digits : Text) : Nat :=
  digits.foldl (fun n c => n * base + (digitValue? c).getD 0) 0

def digitsOf (base n : Nat) : Text := Nat.toDigits base n

def padLeft (width : Nat) (fill : Char) (text : Text) : Text :=
  List.replicate (width - text.length) fill ++ text

def hexPadded (width n : Nat) : Text := padLeft width '0' (digitsOf 16 n)

/-- As many leading characters as are digits of the base, at most `limit`. -/
def spanDigits (base : Nat) : Nat → Text → Text × Text
  | limit + 1, c :: rest =>
      if isDigitOf base c then
        let (digits, after) := spanDigits base limit rest
        (c :: digits, after)
      else ([], c :: rest)
  | _, text => ([], text)

theorem spanDigits_append (base limit : Nat) (text : Text) :
    (spanDigits base limit text).1 ++ (spanDigits base limit text).2 = text := by
  induction limit generalizing text with
  | zero => simp [spanDigits]
  | succ limit ih =>
      cases text with
      | nil => rfl
      | cons c rest =>
          rw [spanDigits]
          split
          · simpa using ih rest
          · rfl

def ofInt : Int → Text
  | .ofNat n => digitsOf 10 n
  | .negSucc n => '-' :: digitsOf 10 (n + 1)

end CommentSchema.Text
