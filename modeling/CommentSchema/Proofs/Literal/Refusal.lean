import CommentSchema.Proofs.Json.Limit
import CommentSchema.Proofs.Overflow
import CommentSchema.Proofs.Stage

/-! Which texts the literal reader settles: it gives their value, or says that they are no
literal and repeats them.  Depth never stands in its way, only the size of a number does. -/

namespace CommentSchema.Literal

/-- The text has been read up to a whole number of so many digits, which are too many for JSON. -/
def DigitsExceed (count : Nat) (text : Text) : Prop :=
  Json.Exceeds {} count .value (Json.Limits.nesting {}) (Json.skipSpace text)

/-- The text has a value, or is refused as it stands. -/
def Settles [Dialect] (text : Text) : Prop :=
  (∃ value, read text = .ok value) ∨
    read text = .error (.comment ⟨.literalUnreadable text, [], some text⟩)

theorem read_eq_tooManyDigits [Dialect] {text : Text} {count : Nat} :
    read text = .error (.value (.tooManyDigits count)) ↔ DigitsExceed count text := by
  rw [DigitsExceed, ← Json.read_eq_tooMany]
  unfold read
  split
  · next same => simp [same]
  · next same => simp [same]
  · next failure notDigits same =>
      rw [same]
      refine iff_of_false ?_ fun many => notDigits count (Except.error.inj many)
      split <;> simp

/-- A text that is not settled is out of range. -/
theorem settles_or [Dialect] (text : Text) :
    Settles text ∨ (∃ count, read text = .error (.value (.tooManyDigits count))) ∨
      read text = .error .overflow := by
  unfold Settles read
  split
  · next value same => exact .inl (.inl ⟨value, rfl⟩)
  · next count same => exact .inr (.inl ⟨count, rfl⟩)
  · split
    · next value same => exact .inl (.inl ⟨value, rfl⟩)
    · exact .inr (.inr rfl)
    · exact .inl (.inr rfl)

theorem not_settles_of_tooManyDigits [Dialect] {text : Text} {count : Nat}
    (failed : read text = .error (.value (.tooManyDigits count))) : ¬ Settles text := by
  simp [Settles, failed]

theorem not_settles_of_overflow [Dialect] {text : Text} (failed : read text = .error .overflow) :
    ¬ Settles text := by
  simp [Settles, failed]

/-- A text is settled unless a number in it is too large; each of the two errors that come out
instead has one cause. -/
theorem read_settles_iff [Dialect] (text : Text) :
    (Settles text ↔ (∀ count, ¬ DigitsExceed count text) ∧ ¬ TextOverflows text) ∧
      (∀ count, read text = .error (.value (.tooManyDigits count)) ↔ DigitsExceed count text) ∧
      (read text = .error .overflow ↔ TextOverflows text) := by
  refine ⟨?_, fun count => read_eq_tooManyDigits, read_eq_overflow⟩
  simp only [← read_eq_tooManyDigits, ← read_eq_overflow]
  constructor
  · intro settled
    exact ⟨fun count failed => not_settles_of_tooManyDigits failed settled,
      fun failed => not_settles_of_overflow failed settled⟩
  · intro inRange
    obtain ⟨fewDigits, small⟩ := inRange
    rcases settles_or text with settled | ⟨count, failed⟩ | failed
    · exact settled
    · exact absurd failed (fewDigits count)
    · exact absurd failed small

/-- A whole number with more digits than JSON allows is neither read nor refused. -/
theorem not_settles_ofInt [Dialect] {n : Int}
    (many : Json.Limits.digits {} < (Text.digitsOf 10 n.natAbs).length) :
    ¬ Settles (Text.ofInt n) := by
  have overlong := Json.isOverlong_ofInt many
  have exceeds : DigitsExceed (Text.digitsOf 10 n.natAbs).length (Text.ofInt n) := by
    rw [DigitsExceed, overlong.skipSpace]
    exact .number overlong
  exact not_settles_of_tooManyDigits (read_eq_tooManyDigits.mpr exceeds)

/-- A real part that is out of range. -/
def largeRealPart : Text := '1' :: List.replicate 309 '0' ++ "+1j".toList

theorem not_settles_largeRealPart : ¬ Settles largeRealPart :=
  not_settles_of_overflow (Stage.errorOf_eq_some.mp (by decide +kernel))

end CommentSchema.Literal
