import CommentSchema.Json.Reader
import CommentSchema.Json.Writer
import CommentSchema.Proofs.Text.Quoting

/-! Numbers and texts read as JSON.  A whole number is read as far as its digits go.  A quoted
text is read back from JSON notation, and from the notation with either quote it is read back or
refused, never taken for another text. -/

namespace CommentSchema

namespace Json

/-! ### Numbers -/

open Text (Closed isDigit digitsOf)

theorem whole?_digitsOf (n : Nat) {rest : Text} (closed : Closed rest) :
    whole? (digitsOf 10 n ++ rest) = some (digitsOf 10 n, rest) := by
  obtain ⟨c, digits, starts, digit, zero⟩ := Text.digitsOf_eq_cons n
  have all : ∀ d ∈ digitsOf 10 n, Text.isDigitOf 10 d = true := fun d member =>
    Text.isDigitOf_of_mem_digitsOf (by decide) (by decide) member
  by_cases isZero : c = '0'
  · obtain ⟨-, rfl⟩ := zero isZero
    rw [starts, isZero]
    rfl
  · have spanned : spanDecimal (digitsOf 10 n ++ rest) = (digitsOf 10 n, rest) := by
      refine Text.spanDigits_append_eq all ?_ (.inr (closed.head _ (by decide)))
      simp
    rw [starts] at spanned ⊢
    rw [List.cons_append] at spanned ⊢
    rw [whole?, if_pos digit, spanned]
    exact isZero

theorem fraction_closed {rest : Text} (closed : Closed rest) : fraction rest = (none, rest) := by
  obtain rfl | ⟨c, after, rfl, rfl | rfl | rfl | rfl | rfl⟩ := closed
  all_goals rfl

theorem exponent_closed {rest : Text} (closed : Closed rest) : exponent rest = (none, rest) := by
  obtain rfl | ⟨c, after, rfl, rfl | rfl | rfl | rfl | rfl⟩ := closed
  all_goals rfl

/-- A whole number as its sign and its digits. -/
def wholeNumeral (n : Int) : Numeral :=
  { negative := decide (n < 0), whole := digitsOf 10 n.natAbs }

theorem numeral?_unsigned {text : Text} (unsigned : ∀ c ∈ text.head?, c ≠ '-') {whole rest : Text}
    (closed : Closed rest) (read : whole? text = some (whole, rest)) :
    numeral? text = some ({ negative := false, whole }, rest) := by
  unfold numeral?
  split
  next negative unsignedText split =>
    split at split
    · exact absurd rfl (unsigned _ rfl)
    · cases split
      simp [read, fraction_closed closed, exponent_closed closed]

theorem numeral?_ofInt (n : Int) {rest : Text} (closed : Closed rest) :
    numeral? (Text.ofInt n ++ rest) = some (wholeNumeral n, rest) := by
  cases n with
  | ofNat n =>
      obtain ⟨c, digits, starts, digit, -⟩ := Text.digitsOf_eq_cons n
      refine (numeral?_unsigned ?_ closed (whole?_digitsOf n closed)).trans ?_
      · change ∀ d ∈ (digitsOf 10 n ++ rest).head?, d ≠ '-'
        rw [starts]
        rintro d same rfl
        cases same
        cases digit
      · simp [wholeNumeral]
  | negSucc n =>
      have whole := whole?_digitsOf (n + 1) closed
      simp [Text.ofInt, numeral?, whole, fraction_closed closed, exponent_closed closed,
        wholeNumeral]

theorem value_wholeNumeral {n : Int} {limits : Limits}
    (short : (digitsOf 10 n.natAbs).length ≤ limits.digits) :
    (wholeNumeral n).value limits = .ok (.int n) := by
  have number : signed (decide (n < 0)) n.natAbs = n := by
    rw [signed]
    split
    · next negative =>
        rw [decide_eq_true_eq] at negative
        simp only [Int.ofNat_eq_natCast]
        omega
    · next positive =>
        rw [decide_eq_true_eq] at positive
        simp only [Int.ofNat_eq_natCast]
        omega
  simp [Numeral.value, wholeNumeral, Nat.not_lt.mpr short, number,
    Text.numberOf_digitsOf (show 1 < 10 by decide) (by decide)]

theorem digit_of_whole? {text digits rest : Text} (read : whole? text = some (digits, rest)) :
    ∃ c tail, text = c :: tail ∧ isDigit c = true := by
  unfold whole? at read
  split at read
  · exact ⟨_, _, rfl, by decide⟩
  · next c tail _ =>
      split at read
      · next digit => exact ⟨c, tail, rfl, digit⟩
      · cases read
  · cases read

/-- A number begins with a digit, or with a sign and a digit. -/
theorem digit_of_numeral? {text rest : Text} {numeral : Numeral}
    (read : numeral? text = some (numeral, rest)) :
    ∃ c tail, isDigit c = true ∧ (text = c :: tail ∨ text = '-' :: c :: tail) := by
  unfold numeral? at read
  obtain ⟨⟨digits, after⟩, readWhole, -⟩ := Option.map_eq_some_iff.mp read
  obtain ⟨c, tail, starts, digit⟩ := digit_of_whole? readWhole
  split at starts
  · exact ⟨c, tail, digit, .inr (congrArg _ starts)⟩
  · exact ⟨c, tail, digit, .inl starts⟩

/-- The first two characters of a word are no digits. -/
theorem noWord_of_digit {text : Text} {i : Nat} {c : Char} (early : i < 2)
    (found : text[i]? = some c) (digit : isDigit c = true) :
    words.findSome? (fun (word, value) =>
      (word.isPrefixOf? text).map fun rest => (value, rest)) = none := by
  have letters : ∀ entry ∈ words, ∀ i < 2, entry.1[i]?.any (fun c => !isDigit c) = true := by
    decide
  rw [List.findSome?_eq_none_iff]
  intro entry member
  rw [Option.map_eq_none_iff]
  cases begins : entry.1.isPrefixOf? text with
  | none => rfl
  | some after =>
      obtain ⟨d, letter, other⟩ := Option.any_eq_true _ _ |>.mp (letters entry member i early)
      rw [← List.isPrefixOf?_eq_some_iff_append_eq.mp begins,
        List.getElem?_append_left (List.getElem?_eq_some_iff.mp letter).1, letter] at found
      cases found
      simp [digit] at other

theorem noWord_of_numeral? {text rest : Text} {numeral : Numeral}
    (read : numeral? text = some (numeral, rest)) :
    words.findSome? (fun (word, value) =>
      (word.isPrefixOf? text).map fun rest => (value, rest)) = none := by
  obtain ⟨c, tail, digit, rfl | rfl⟩ := digit_of_numeral? read
  · exact noWord_of_digit (show 0 < 2 by decide) rfl digit
  · exact noWord_of_digit (show 1 < 2 by decide) rfl digit

theorem atom_ofInt {n : Int} {limits : Limits} {rest : Text}
    (short : (digitsOf 10 n.natAbs).length ≤ limits.digits) (closed : Closed rest) :
    atom limits (Text.ofInt n ++ rest) = .ok (.int n, rest) := by
  have read := numeral?_ofInt n closed
  unfold atom
  rw [noWord_of_numeral? read, read]
  simp only [value_wholeNumeral short]
  rfl

/-! ### Texts -/

theorem stringCodes_letter {c letter : Char} (written : letter? c = some letter)
    (opening rest : Text) :
    stringCodes opening ('\\' :: letter :: rest) = prepend c.toNat (stringCodes opening rest) := by
  unfold letter? at written
  split at written
  all_goals cases written
  all_goals rfl

theorem stringCodes_plain {c : Char} (noQuote : c ≠ '\x22') (noBackslash : c ≠ '\\')
    (visible : 0x20 ≤ c.toNat) (opening rest : Text) :
    stringCodes opening (c :: rest) = prepend c.toNat (stringCodes opening rest) := by
  rw [stringCodes, if_neg (Nat.not_lt.mpr visible)]
  all_goals simp [noQuote, noBackslash]

theorem stringCodes_escapeUnit {unit : Nat} (fits : unit < 0x10000) (opening : Text) {rest : Text}
    (more : rest ≠ []) : stringCodes opening (escapeUnit unit ++ rest) =
      prepend unit (stringCodes opening rest) := by
  have four := Text.length_hexPadded (show 0 < 4 by decide) fits
  have hex : ∀ c ∈ Text.hexPadded 4 unit, Text.isDigitOf 16 c = true :=
    fun c member => Text.isDigitOf_of_mem_hexPadded member
  have number := Text.numberOf_hexPadded 4 unit
  rw [escapeUnit]
  generalize Text.hexPadded 4 unit = digits at four hex number
  obtain ⟨a, b, c, d, rfl⟩ := List.length_eq_four.mp four
  have read : hex4? a b c d = some unit := by
    rw [hex4?, if_pos (List.all_eq_true.mpr hex), number]
  cases rest with
  | nil => exact absurd rfl more
  | cons next rest =>
      simp only [List.cons_append, List.nil_append]
      rw [stringCodes, read]
      rfl

theorem joinSurrogates_char (c : Char) (codes : List Nat) :
    joinSurrogates (c.toNat :: codes) = .char c :: joinSurrogates codes := by
  have bounds := Text.toNat_bounds c
  have noHigh : isHighSurrogate c.toNat = false := by
    simp only [isHighSurrogate, Bool.and_eq_false_iff, decide_eq_false_iff_not]
    omega
  cases codes with
  | nil => simp [joinSurrogates]
  | cons low rest => simp [joinSurrogates, noHigh]

/-- The written form of a character is read as this character, whatever stands behind it. -/
def Spells (written : Text) (c : Char) : Prop :=
  ∀ opening rest, rest ≠ [] → string opening (written ++ rest) =
    (string opening rest).map fun (points, after) => (.char c :: points, after)

theorem spells_of_stringCodes {written : Text} {c : Char}
    (code : ∀ opening rest, rest ≠ [] → stringCodes opening (written ++ rest) =
      prepend c.toNat (stringCodes opening rest)) : Spells written c := by
  intro opening rest more
  rw [string, string, code opening rest more]
  cases stringCodes opening rest with
  | ok found => simp [prepend, Except.map, joinSurrogates_char]
  | error failure => rfl

theorem spells_letter {c letter : Char} (written : letter? c = some letter) :
    Spells ['\\', letter] c :=
  spells_of_stringCodes fun opening rest _ => stringCodes_letter written opening rest

theorem spells_plain {c : Char} (noQuote : c ≠ '\x22') (noBackslash : c ≠ '\\')
    (visible : 0x20 ≤ c.toNat) : Spells [c] c :=
  spells_of_stringCodes fun opening rest _ =>
    stringCodes_plain noQuote noBackslash visible opening rest

theorem spells_escapeUnit {c : Char} (fits : c.toNat < 0x10000) :
    Spells (escapeUnit c.toNat) c :=
  spells_of_stringCodes fun opening _ more => stringCodes_escapeUnit fits opening more

theorem spells_pair {c : Char} (large : 0x10000 ≤ c.toNat) :
    Spells (escapeUnit (0xd800 + (c.toNat - 0x10000) / 0x400) ++
      escapeUnit (0xdc00 + (c.toNat - 0x10000) % 0x400)) c := by
  have bounds := Text.toNat_bounds c
  intro opening rest more
  have nonempty : ∀ unit, escapeUnit unit ++ rest ≠ [] := by
    intro unit
    simp [escapeUnit]
  rw [string, string, List.append_assoc, stringCodes_escapeUnit (by omega) _ (nonempty _),
    stringCodes_escapeUnit (by omega) _ more]
  cases stringCodes opening rest with
  | ok found =>
      have high : isHighSurrogate (0xd800 + (c.toNat - 0x10000) / 0x400) = true := by
        simp only [isHighSurrogate, Bool.and_eq_true, decide_eq_true_eq]
        omega
      have low : isLowSurrogate (0xdc00 + (c.toNat - 0x10000) % 0x400) = true := by
        simp only [isLowSurrogate, Bool.and_eq_true, decide_eq_true_eq]
        omega
      have code : 0x10000 + (0xd800 + (c.toNat - 0x10000) / 0x400 - 0xd800) * 0x400 +
          (0xdc00 + (c.toNat - 0x10000) % 0x400 - 0xdc00) = c.toNat := by
        omega
      simp only [prepend, Except.map, joinSurrogates, high, low, code, Bool.and_self, if_true,
        Char.ofNat_toNat]
  | error failure => rfl

theorem spells_escapeChar (ascii : Bool) (c : Char) : Spells (escapeChar ascii c) c := by
  unfold escapeChar
  split
  · next letter written => exact spells_letter written
  · next unlettered =>
      split
      · rw [escapeCode]
        split
        · next small => exact spells_escapeUnit small
        · next large => exact spells_pair (Nat.not_lt.mp large)
      · next plain =>
          simp only [Bool.or_eq_true, decide_eq_true_eq, not_or, Nat.not_lt] at plain
          refine spells_plain ?_ ?_ plain.1
          · rintro rfl
            cases unlettered
          · rintro rfl
            cases unlettered

/-- The written form of a character is refused, whatever stands behind it. -/
def Refused (written : Text) : Prop :=
  ∀ opening rest, ∃ fault left, string opening (written ++ rest) = .error (.malformed fault left)

/-- An escape that JSON has as well means the same there. -/
theorem spells_or_refused {c : Char} {written : Text} (escapes : Text.Escapes '\x22' c written) :
    Spells written c ∨ Refused written := by
  cases escapes with
  | special reserved =>
      rcases reserved with rfl | rfl
      · exact .inl (spells_letter rfl)
      · exact .inl (spells_letter rfl)
  | letter control =>
      simp only [List.mem_cons, Prod.mk.injEq, List.not_mem_nil, or_false] at control
      rcases control with ⟨rfl, rfl⟩ | ⟨rfl, rfl⟩ | ⟨rfl, rfl⟩
      · exact .inl (spells_letter rfl)
      · exact .inl (spells_letter rfl)
      · exact .inl (spells_letter rfl)
  | plain visible noMark noBackslash =>
      exact .inl (spells_plain noMark noBackslash (Text.visible_of_isPrintable visible).1)
  | code form fits =>
      simp only [List.mem_cons, Prod.mk.injEq, List.not_mem_nil, or_false] at form
      rcases form with ⟨rfl, rfl⟩ | ⟨rfl, rfl⟩ | ⟨rfl, rfl⟩
      · exact .inr fun opening rest => ⟨_, _, rfl⟩
      · exact .inl (spells_escapeUnit fits)
      · exact .inr fun opening rest => ⟨_, _, rfl⟩

/-- A text in which every character is spelled is read; it is refused where one is refused. -/
theorem string_escaped {spelling : Char → Text} {text : Text}
    (escaped : ∀ c ∈ text, Spells (spelling c) c ∨ Refused (spelling c)) (opening rest : Text) :
    string opening (text.flatMap spelling ++ '\x22' :: rest) = .ok (text.map .char, rest) ∨
      ∃ fault left, string opening (text.flatMap spelling ++ '\x22' :: rest) =
        .error (.malformed fault left) := by
  induction text with
  | nil => exact .inl rfl
  | cons c text ih =>
      rw [List.forall_mem_cons] at escaped
      rw [List.flatMap_cons, List.append_assoc]
      rcases escaped.1 with spells | refused
      · rw [spells _ _ (by simp)]
        rcases ih escaped.2 with same | ⟨fault, left, same⟩
        · rw [same]
          exact .inl rfl
        · rw [same]
          exact .inr ⟨fault, left, rfl⟩
      · exact .inr (refused _ _)

theorem string_spelled {spelling : Char → Text} {text : Text}
    (spells : ∀ c ∈ text, Spells (spelling c) c) (opening rest : Text) :
    string opening (text.flatMap spelling ++ '\x22' :: rest) = .ok (text.map .char, rest) := by
  induction text with
  | nil => rfl
  | cons c text ih =>
      rw [List.forall_mem_cons] at spells
      rw [List.flatMap_cons, List.append_assoc, spells.1 _ _ (by simp), ih spells.2]
      rfl

end Json

end CommentSchema
