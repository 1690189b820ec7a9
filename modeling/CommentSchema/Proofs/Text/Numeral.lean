import CommentSchema.Text.Digits
import Mathlib.Algebra.Group.Nat.Defs
import Mathlib.Data.List.Basic

/-! Numbers written in digits are read back: the digits of a number are digits of its base, they
denote the number, and a reader that takes digits takes all of them and nothing behind them. -/

namespace CommentSchema.Text

theorem isDigitOf_ten (c : Char) : isDigitOf 10 c = isDigit c := by
  cases decimal : isDigit c with
  | true =>
      have value : digitValue? c = some (c.toNat - '0'.toNat) := if_pos decimal
      have upper : c ≤ '9' := by
        simp only [isDigit, Bool.and_eq_true, decide_eq_true_eq] at decimal
        exact decimal.2
      have bound : c.toNat ≤ 57 := upper
      have zero : '0'.toNat = 48 := rfl
      rw [isDigitOf, value]
      exact decide_eq_true (by omega)
  | false =>
      have other : ¬ ('0' ≤ c && c ≤ '9') = true := Bool.eq_false_iff.mp decimal
      rw [isDigitOf, digitValue?, if_neg other]
      split
      · next value found =>
          split at found
          · cases found
            simp
          · split at found
            · cases found
              simp
            · cases found
      · rfl

theorem digitValue?_digitChar : ∀ n < 16, digitValue? (Nat.digitChar n) = some n := by decide

section

variable {base : Nat} (more : 1 < base) (few : base ≤ 16)

include more few

theorem isDigitOf_digitChar {n : Nat} (small : n < base) :
    isDigitOf base (Nat.digitChar n) = true := by
  rw [isDigitOf, digitValue?_digitChar n (by omega)]
  exact decide_eq_true small

theorem isDigitOf_of_mem_digitsOf {n : Nat} {c : Char} (member : c ∈ digitsOf base n) :
    isDigitOf base c = true := by
  induction n using Nat.strongRecOn with
  | ind n ih =>
      rw [digitsOf, Nat.toDigits_eq_if more] at member
      split at member
      · next small =>
          rw [List.mem_singleton] at member
          subst member
          exact isDigitOf_digitChar more few small
      · next large =>
          rw [List.mem_append, List.mem_singleton] at member
          rcases member with member | rfl
          · exact ih (n / base) (Nat.div_lt_self (by omega) more) member
          · exact isDigitOf_digitChar more few (Nat.mod_lt n (by omega))

theorem numberOf_digitsOf (n : Nat) : numberOf base (digitsOf base n) = n := by
  induction n using Nat.strongRecOn with
  | ind n ih =>
      rw [digitsOf, Nat.toDigits_eq_if more]
      split
      · next small =>
          simp [numberOf, digitValue?_digitChar n (by omega)]
      · next large =>
          have front := ih (n / base) (Nat.div_lt_self (by omega) more)
          have last := Nat.mod_lt n (show 0 < base by omega)
          rw [digitsOf, numberOf] at front
          rw [numberOf, List.foldl_append, front]
          simp only [List.foldl_cons, List.foldl_nil,
            digitValue?_digitChar (n % base) (by omega), Option.getD_some]
          exact Nat.div_add_mod' n base

end

/-- Only zero is written with a zero in front. -/
theorem head_digitsOf_ne_zero {base n : Nat} (more : 1 < base) (positive : 0 < n) {c : Char}
    {rest : Text} (starts : digitsOf base n = c :: rest) : c ≠ '0' := by
  induction n using Nat.strongRecOn generalizing rest with
  | ind n ih =>
      rw [digitsOf, Nat.toDigits_eq_if more] at starts
      split at starts
      · obtain ⟨rfl, -⟩ := List.cons.inj starts
        rw [ne_eq, Nat.digitChar_eq_zero]
        omega
      · next large =>
          have quotient : 0 < n / base := Nat.div_pos (by omega) (by omega)
          cases front : digitsOf base (n / base) with
          | nil => exact absurd front Nat.toDigits_ne_nil
          | cons d others =>
              rw [digitsOf] at front
              rw [front, List.cons_append] at starts
              obtain ⟨rfl, -⟩ := List.cons.inj starts
              exact ih (n / base) (Nat.div_lt_self positive more) quotient front

theorem digitsOf_eq_cons (n : Nat) : ∃ c digits, digitsOf 10 n = c :: digits ∧
    isDigit c = true ∧ (c = '0' → n = 0 ∧ digits = []) := by
  cases starts : digitsOf 10 n with
  | nil => exact absurd starts Nat.toDigits_ne_nil
  | cons c digits =>
      have member : c ∈ digitsOf 10 n := by simp [starts]
      have digit := isDigitOf_of_mem_digitsOf (by decide) (by decide) member
      rw [isDigitOf_ten] at digit
      refine ⟨c, digits, rfl, digit, ?_⟩
      intro isZero
      have zero : n = 0 := by
        by_contra positive
        exact head_digitsOf_ne_zero (by decide) (Nat.pos_of_ne_zero positive) starts isZero
      subst zero
      rw [digitsOf, Nat.toDigits_zero] at starts
      exact ⟨rfl, (List.cons.inj starts).2.symm⟩

theorem spanDigits_append_eq {base limit : Nat} {digits rest : Text}
    (all : ∀ c ∈ digits, isDigitOf base c = true) (short : digits.length ≤ limit)
    (ends : digits.length = limit ∨ ∀ c ∈ rest.head?, isDigitOf base c = false) :
    spanDigits base limit (digits ++ rest) = (digits, rest) := by
  induction digits generalizing limit with
  | nil =>
      cases limit with
      | zero => rfl
      | succ limit =>
          cases rest with
          | nil => rfl
          | cons c rest =>
              have other : isDigitOf base c = false := by
                rcases ends with full | ends
                · cases full
                · exact ends c rfl
              simp [spanDigits, other]
  | cons c digits ih =>
      rw [List.forall_mem_cons] at all
      cases limit with
      | zero => simp at short
      | succ limit =>
          simp only [List.length_cons, Nat.add_le_add_iff_right, Nat.add_right_cancel_iff]
            at short ends
          simp [spanDigits, all.1, ih all.2 short ends]

/-! ### Codes of characters in hexadecimal digits of a fixed width -/

theorem toNat_bounds (c : Char) : c.toNat < 0xd800 ∨ 0xe000 ≤ c.toNat ∧ c.toNat < 0x110000 := by
  have valid := c.valid
  simp only [UInt32.isValidChar, Nat.isValidChar] at valid
  have same : c.val.toNat = c.toNat := rfl
  omega

theorem length_hexPadded {width n : Nat} (wide : 0 < width) (fits : n < 16 ^ width) :
    (hexPadded width n).length = width := by
  have short := (Nat.length_toDigits_le_iff (by decide) wide).mpr fits
  rw [hexPadded, padLeft, List.length_append, List.length_replicate, digitsOf]
  omega

theorem isDigitOf_of_mem_hexPadded {width n : Nat} {c : Char} (member : c ∈ hexPadded width n) :
    isDigitOf 16 c = true := by
  rw [hexPadded, padLeft, List.mem_append] at member
  rcases member with fill | member
  · rw [List.eq_of_mem_replicate fill]
    decide
  · exact isDigitOf_of_mem_digitsOf (by decide) (by decide) member

theorem numberOf_hexPadded (width n : Nat) : numberOf 16 (hexPadded width n) = n := by
  have zeros (count : Nat) (digits : Text) :
      numberOf 16 (List.replicate count '0' ++ digits) = numberOf 16 digits := by
    induction count with
    | zero => rfl
    | succ count ih => exact ih
  rw [hexPadded, padLeft, zeros, numberOf_digitsOf (by decide) (by decide)]

/-! ### Where a value ends -/

/-- Nothing more of a value can stand here: the text ends, or a comma, a colon or a bracket
follows. -/
def Closed (rest : Text) : Prop :=
  rest = [] ∨ ∃ c after, rest = c :: after ∧ (c = ',' ∨ c = ':' ∨ c = ']' ∨ c = '\x7d' ∨ c = ')')

theorem Closed.end : Closed [] := .inl rfl

theorem Closed.comma (after : Text) : Closed (',' :: after) := .inr ⟨_, _, rfl, .inl rfl⟩

theorem Closed.colon (after : Text) : Closed (':' :: after) := .inr ⟨_, _, rfl, .inr (.inl rfl)⟩

theorem Closed.bracket (after : Text) : Closed (']' :: after) :=
  .inr ⟨_, _, rfl, .inr (.inr (.inl rfl))⟩

theorem Closed.brace (after : Text) : Closed ('\x7d' :: after) :=
  .inr ⟨_, _, rfl, .inr (.inr (.inr (.inl rfl)))⟩

theorem Closed.parenthesis (after : Text) : Closed (')' :: after) :=
  .inr ⟨_, _, rfl, .inr (.inr (.inr (.inr rfl)))⟩

/-- No character that a closed text begins with has a property that none of them has. -/
theorem Closed.head {rest : Text} (closed : Closed rest) (has : Char → Bool)
    (none : [',', ':', ']', '\x7d', ')'].any has = false) : ∀ c ∈ rest.head?, has c = false := by
  intro c first
  obtain rfl | ⟨d, after, rfl, known⟩ := closed
  · cases first
  · cases first
    exact Bool.eq_false_iff.mpr (List.any_eq_false.mp none c (by simpa using known))

end CommentSchema.Text
