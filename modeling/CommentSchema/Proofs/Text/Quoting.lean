import CommentSchema.Proofs.Text.Numeral
import CommentSchema.Text.Quoted

/-! How the characters of a quoted text are written, and that all of them can be shown. -/

namespace CommentSchema.Text

/-- The ways in which a character is written between two marks. -/
inductive Escapes (mark c : Char) : Text → Prop where
  | special (reserved : c = mark ∨ c = '\\') : Escapes mark c ['\\', c]
  | letter {letter : Char} (control : (c, letter) ∈ [('\n', 'n'), ('\r', 'r'), ('\t', 't')]) :
      Escapes mark c ['\\', letter]
  | plain (visible : isPrintable c = true) (noMark : c ≠ mark) (noBackslash : c ≠ '\\') :
      Escapes mark c [c]
  | code {letter : Char} {width : Nat}
      (form : (letter, width) ∈ [('x', 2), ('u', 4), ('U', 8)]) (fits : c.toNat < 16 ^ width) :
      Escapes mark c ('\\' :: letter :: hexPadded width c.toNat)

theorem escapes_escapeCode (mark c : Char) : Escapes mark c (escapeCode c.toNat) := by
  have bounds := toNat_bounds c
  unfold escapeCode
  split
  · next two => exact .code (by simp) two
  · split
    · next four => exact .code (by simp) four
    · exact .code (by simp) (by omega)

theorem escapes_escapeFor (mark c : Char) : Escapes mark c (escapeFor mark c) := by
  unfold escapeFor
  split
  · next reserved => exact .special (by simpa using reserved)
  · next ordinary =>
      rw [Bool.or_eq_true, beq_iff_eq, beq_iff_eq, not_or] at ordinary
      unfold escapeUnprintable
      split
      · next same => exact .letter (by simp [eq_of_beq same])
      · split
        · next same => exact .letter (by simp [eq_of_beq same])
        · split
          · next same => exact .letter (by simp [eq_of_beq same])
          · split
            · next visible => exact .plain visible ordinary.1 ordinary.2
            · exact escapes_escapeCode mark c

theorem visible_of_isPrintable {c : Char} (printable : isPrintable c = true) :
    0x20 ≤ c.toNat ∧ c.toNat ≠ 0x7f := by
  by_cases small : c.toNat < 0x80
  · simp only [isPrintable, if_pos small, Bool.and_eq_true, decide_eq_true_eq] at printable
    omega
  · omega

theorem isPrintable_of_isDigitOf {base : Nat} {c : Char} (digit : isDigitOf base c = true) :
    isPrintable c = true := by
  have within {low high : Char} (between : (decide (low ≤ c) && decide (c ≤ high)) = true)
      (first : 0x20 ≤ low.toNat) (last : high.toNat < 0x7f) : isPrintable c = true := by
    simp only [Bool.and_eq_true, decide_eq_true_eq] at between
    have lower : low.toNat ≤ c.toNat := between.1
    have upper : c.toNat ≤ high.toNat := between.2
    exact isPrintable_ascii (by omega) (by omega)
  unfold isDigitOf digitValue? at digit
  split at digit
  · next found =>
      split at found
      · next decimal => exact within decimal (by decide) (by decide)
      · split at found
        · next lower => exact within lower (by decide) (by decide)
        · split at found
          · next upper => exact within upper (by decide) (by decide)
          · cases found
  · cases digit

theorem isPrintable_of_escapes {mark c d : Char} {written : Text} (escapes : Escapes mark c written)
    (visible : isPrintable mark = true) (member : d ∈ written) : isPrintable d = true := by
  cases escapes with
  | special reserved =>
      rcases List.mem_pair.mp member with rfl | rfl
      · decide
      · rcases reserved with rfl | rfl
        · exact visible
        · decide
  | letter control =>
      have letters : ∀ entry ∈ [('\n', 'n'), ('\r', 'r'), ('\t', 't')],
          isPrintable entry.2 = true := by
        decide
      rcases List.mem_pair.mp member with rfl | rfl
      · decide
      · exact letters _ control
  | plain visible _ _ =>
      rw [List.mem_singleton.mp member]
      exact visible
  | code form _ =>
      have letters : ∀ entry ∈ [('x', 2), ('u', 4), ('U', 8)], isPrintable entry.1 = true := by
        decide
      rcases List.mem_cons.mp member with rfl | member
      · decide
      · rcases List.mem_cons.mp member with rfl | digit
        · exact letters _ form
        · exact isPrintable_of_isDigitOf (isDigitOf_of_mem_hexPadded digit)

theorem quoteMark_eq (text : Text) : quoteMark text = '\x27' ∨ quoteMark text = '\x22' := by
  rw [quoteMark]
  split
  · exact .inr rfl
  · exact .inl rfl

theorem isPrintable_of_mem_quote {text : Text} {c : Char} (member : c ∈ quote text) :
    isPrintable c = true := by
  have visible : isPrintable (quoteMark text) = true := by
    rcases quoteMark_eq text with same | same
    · rw [same]
      decide
    · rw [same]
      decide
  simp only [quote_eq, List.mem_cons, List.mem_append, List.mem_flatMap, List.not_mem_nil,
    or_false] at member
  rcases member with (rfl | ⟨d, -, escaped⟩) | rfl
  · exact visible
  · exact isPrintable_of_escapes (escapes_escapeFor _ d) visible escaped
  · exact visible

end CommentSchema.Text
