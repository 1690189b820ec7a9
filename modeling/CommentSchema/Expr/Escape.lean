import CommentSchema.Expr.Dialect
import CommentSchema.Text.CodePoint
import CommentSchema.Text.Digits

/-! The code points and the bytes that the body of a quotation denotes.  A backslash in front of
a line end joins lines, the usual letters stand for control characters, codes are given in octal
or hexadecimal, a character can be given by its name, and in front of anything else a backslash
stands for itself. -/

namespace CommentSchema.Escape

def letter? : Char → Option Char
  | '\\' => some '\\'
  | '\x27' => some '\x27'
  | '\x22' => some '\x22'
  | 'a' => some '\x07'
  | 'b' => some '\x08'
  | 'f' => some '\x0c'
  | 'n' => some '\n'
  | 'r' => some '\r'
  | 't' => some '\t'
  | 'v' => some '\x0b'
  | _ => none

def point? (code : Nat) : Option CodePoint :=
  if code < 0x110000 then some (.ofNat code) else none

theorem point?_toNat (c : Char) : point? c.toNat = some (.char c) := by
  have scalar : c.toNat < 0xd800 ∨ 0xdfff < c.toNat ∧ c.toNat < 0x110000 := c.valid
  have small : c.toNat < 0x110000 := by omega
  rw [point?, if_pos small, CodePoint.ofNat_toNat]

def codeWidth? : Char → Option Nat
  | 'x' => some 2
  | 'u' => some 4
  | 'U' => some 8
  | _ => none

theorem spanDigits_length_le (base limit : Nat) (text : Text) :
    (Text.spanDigits base limit text).2.length ≤ text.length := by
  have h := congrArg List.length (Text.spanDigits_append base limit text)
  simp only [List.length_append] at h
  omega

/-- The character that is named between braces, and what follows them. -/
def named? [Dialect] : Text → Option (Char × Text)
  | '\x7b' :: rest =>
      match rest.takeWhile (· != '\x7d'), rest.dropWhile (· != '\x7d') with
      | first :: others, '\x7d' :: after =>
          (Dialect.named? (first :: others)).map fun meant => (meant, after)
      | _, _ => none
  | _ => none

theorem length_add_three_le_of_named? [Dialect] {text after : Text} {meant : Char}
    (named : named? text = some (meant, after)) : after.length + 3 ≤ text.length := by
  unfold named? at named
  split at named
  · next rest =>
      split at named
      · next first others behind taken dropped =>
          obtain ⟨_, -, same⟩ := Option.map_eq_some_iff.mp named
          cases same
          have whole := congrArg List.length (List.takeWhile_append_dropWhile (l := rest)
            (p := (· != '\x7d')))
          rw [taken, dropped] at whole
          simp only [List.length_append, List.length_cons] at whole ⊢
          omega
      · cases named
  · cases named

def decode? [Dialect] : Text → Option (List CodePoint)
  | [] => some []
  | '\\' :: '\n' :: rest => decode? rest
  | '\\' :: c :: rest =>
      match letter? c with
      | some meant => (decode? rest).map (.char meant :: ·)
      | none =>
          match codeWidth? c with
          | some width =>
              if width ≤ (Text.spanDigits 16 width rest).1.length then
                match point? (Text.numberOf 16 (Text.spanDigits 16 width rest).1) with
                | some meant => (decode? (Text.spanDigits 16 width rest).2).map (meant :: ·)
                | none => none
              else none
          | none =>
              if c == 'N' then
                match _ : named? rest with
                | some (meant, after) => (decode? after).map (.char meant :: ·)
                | none => none
              else if Text.isDigitOf 8 c then
                (decode? (Text.spanDigits 8 2 rest).2).map
                  (.ofNat (Text.numberOf 8 (c :: (Text.spanDigits 8 2 rest).1)) :: ·)
              else (decode? rest).map fun points => .char '\\' :: .char c :: points
  | c :: rest => (decode? rest).map (.char c :: ·)
termination_by text => text.length
decreasing_by
  all_goals first
    | (simp only [List.length_cons]; omega)
    | (simp only [List.length_cons]; have shorter := spanDigits_length_le 16 width rest; omega)
    | (next named =>
        have shorter := length_add_three_le_of_named? named; simp only [List.length_cons]; omega)
    | (simp only [List.length_cons]; have shorter := spanDigits_length_le 8 2 rest; omega)

def decodeBytes? : Text → Option (List UInt8)
  | [] => some []
  | '\\' :: '\n' :: rest => decodeBytes? rest
  | '\\' :: c :: rest =>
      match letter? c with
      | some meant => (decodeBytes? rest).map (UInt8.ofNat meant.toNat :: ·)
      | none =>
          if c == 'x' then
            if 2 ≤ (Text.spanDigits 16 2 rest).1.length then
              (decodeBytes? (Text.spanDigits 16 2 rest).2).map
                (UInt8.ofNat (Text.numberOf 16 (Text.spanDigits 16 2 rest).1) :: ·)
            else none
          else if Text.isDigitOf 8 c then
            (decodeBytes? (Text.spanDigits 8 2 rest).2).map
              (UInt8.ofNat (Text.numberOf 8 (c :: (Text.spanDigits 8 2 rest).1)) :: ·)
          else if c.toNat < 0x80 then
            (decodeBytes? rest).map fun bytes => '\\'.toUInt8 :: c.toUInt8 :: bytes
          else none
  | c :: rest => if c.toNat < 0x80 then (decodeBytes? rest).map (c.toUInt8 :: ·) else none
termination_by text => text.length
decreasing_by
  all_goals first
    | (simp only [List.length_cons]; omega)
    | (simp only [List.length_cons]; have shorter := spanDigits_length_le 16 2 rest; omega)
    | (simp only [List.length_cons]; have shorter := spanDigits_length_le 8 2 rest; omega)

def rawBytes? (body : Text) : Option (List UInt8) :=
  if body.all (·.toNat < 0x80) then some (body.map Char.toUInt8) else none

end CommentSchema.Escape
