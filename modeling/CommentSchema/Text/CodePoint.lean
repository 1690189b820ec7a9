import CommentSchema.Text.Basic

/-! Code points: characters, and halves of surrogate pairs that stand alone.  Code points that
are all characters are a text; the others are torn. -/

namespace CommentSchema

inductive CodePoint where
  | char (c : Char)
  | half (offset : Fin 0x800)
deriving DecidableEq, Repr

namespace CodePoint

def isHalf (code : Nat) : Bool := 0xd800 ≤ code && code < 0xe000

def ofNat (code : Nat) : CodePoint :=
  if isHalf code then .half (Fin.ofNat 0x800 (code - 0xd800)) else .char (Char.ofNat code)

def toNat : CodePoint → Nat
  | .char c => c.toNat
  | .half offset => 0xd800 + offset

def char? : CodePoint → Option Char
  | .char c => some c
  | .half _ => none

def toText? (points : List CodePoint) : Option Text := points.mapM char?

theorem isHalf_toNat (c : Char) : isHalf c.toNat = false := by
  have scalar : c.toNat < 0xd800 ∨ 0xdfff < c.toNat ∧ c.toNat < 0x110000 := c.valid
  simp only [isHalf, Bool.and_eq_false_iff, decide_eq_false_iff_not]
  omega

@[simp] theorem ofNat_toNat (c : Char) : ofNat c.toNat = .char c := by
  rw [ofNat, isHalf_toNat, if_neg Bool.false_ne_true, Char.ofNat_toNat]

@[simp] theorem toText?_map_char (text : Text) : toText? (text.map .char) = some text := by
  induction text with
  | nil => rfl
  | cons c rest ih =>
      rw [toText?] at ih
      simp [toText?, char?, ih]

theorem eq_map_char_of_toText? {points : List CodePoint} {text : Text}
    (read : toText? points = some text) : points = text.map .char := by
  induction points generalizing text with
  | nil =>
      cases read
      rfl
  | cons point rest ih =>
      simp only [toText?, List.mapM_cons, Option.pure_def, Option.bind_eq_bind,
        Option.bind_eq_some_iff, Option.some.injEq] at read
      obtain ⟨c, isChar, others, readRest, rfl⟩ := read
      cases point with
      | char =>
          cases isChar
          rw [List.map_cons, ← ih readRest]
      | half => cases isChar

end CodePoint

/-- Code points that are no text. -/
structure Torn where
  points : List CodePoint
  noText : CodePoint.toText? points = none
deriving DecidableEq, Repr

namespace CodePoint

/-- What stands for code points, be they a text or torn. -/
def either (ofText : Text → α) (ofTorn : Torn → α) (points : List CodePoint) : α :=
  match read : toText? points with
  | some text => ofText text
  | none => ofTorn ⟨points, read⟩

variable {ofText : Text → α} {ofTorn : Torn → α} {points : List CodePoint}

theorem either_of_text {text : Text} (read : toText? points = some text) :
    either ofText ofTorn points = ofText text := by
  unfold either
  split
  · next found =>
      rw [found] at read
      cases read
      rfl
  · next missing =>
      rw [missing] at read
      cases read

theorem either_of_torn (noText : toText? points = none) :
    either ofText ofTorn points = ofTorn ⟨points, noText⟩ := by
  unfold either
  split
  · next found =>
      rw [found] at noText
      cases noText
  · rfl

@[simp] theorem either_map_char (text : Text) :
    either ofText ofTorn (text.map .char) = ofText text := either_of_text (toText?_map_char text)

end CodePoint

end CommentSchema
