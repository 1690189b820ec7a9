import CommentSchema.Expr.Lexer
import CommentSchema.Proofs.Text.Quoting

/-! Tokens found in a text: words, whole numbers and quoted texts where nothing runs into them,
and the line of tokens put together from them. -/

namespace CommentSchema.Token

open Text (Closed isDigit digitsOf)

/-! ### Whole numbers -/

theorem digitGroups_append {digits rest : Text} (all : ∀ c ∈ digits, isDigit c = true)
    (ends : ∀ c ∈ rest.head?, isDigit c = false ∧ c ≠ '_') :
    digitGroups 10 (digits ++ rest) = some (digits, rest) := by
  induction digits with
  | nil =>
      cases rest with
      | nil => rfl
      | cons c rest =>
          obtain ⟨noDigit, noUnderscore⟩ := ends c rfl
          rw [List.nil_append, digitGroups, Text.isDigitOf_ten, noDigit]
          · rfl
          · exact noUnderscore
  | cons c digits ih =>
      rw [List.forall_mem_cons] at all
      rw [List.cons_append, digitGroups, Text.isDigitOf_ten, if_pos all.1, ih all.2]
      · rfl
      · rintro rfl
        cases all.1

theorem fraction?_closed {rest : Text} (closed : Closed rest) :
    fraction? rest = some (none, rest) := by
  obtain rfl | ⟨c, after, rfl, rfl | rfl | rfl | rfl | rfl⟩ := closed
  all_goals rfl

theorem exponent?_closed {rest : Text} (closed : Closed rest) :
    exponent? rest = some (none, rest) := by
  obtain rfl | ⟨c, after, rfl, rfl | rfl | rfl | rfl | rfl⟩ := closed
  all_goals rfl

theorem endsNumber_closed {rest : Text} (closed : Closed rest) : endsNumber rest = true := by
  obtain rfl | ⟨c, after, rfl, rfl | rfl | rfl | rfl | rfl⟩ := closed
  all_goals rfl

theorem decimal?_digitsOf {n : Nat} {rest : Text} (short : (digitsOf 10 n).length ≤ 4300)
    (closed : Closed rest) : decimal? (digitsOf 10 n ++ rest) = some (.int n, rest) := by
  obtain ⟨c, digits, starts, digit, zero⟩ := Text.digitsOf_eq_cons n
  have all : ∀ d ∈ digitsOf 10 n, isDigit d = true := by
    intro d member
    rw [← Text.isDigitOf_ten]
    exact Text.isDigitOf_of_mem_digitsOf (by decide) (by decide) member
  have ends : ∀ d ∈ rest.head?, isDigit d = false ∧ d ≠ '_' := by
    intro d first
    have other := closed.head (fun d => isDigit d || d == '_') (by decide) d first
    simpa using other
  have noLeadingZero : ((digitsOf 10 n).head? == some '0' && (digitsOf 10 n).any (· != '0')) =
      false := by
    rw [starts]
    by_cases isZero : c = '0'
    · obtain ⟨-, rfl⟩ := zero isZero
      simp [isZero]
    · simp [isZero]
  have fewDigits : ¬ digitLimit < (digitsOf 10 n).length := Nat.not_lt.mpr short
  simp only [decimal?, digitGroups_append all ends, fraction?_closed closed,
    exponent?_closed closed, Option.bind_eq_bind, Option.bind_some]
  split
  · next imaginary => simp [Closed] at closed
  · next imaginary => simp [Closed] at closed
  · simp [endsNumber_closed closed, noLeadingZero, fewDigits,
      Text.numberOf_digitsOf (show 1 < 10 by decide)]

theorem number?_digitsOf {n : Nat} {rest : Text} (short : (digitsOf 10 n).length ≤ 4300)
    (closed : Closed rest) : number? (digitsOf 10 n ++ rest) = some (.int n, rest) := by
  rw [← decimal?_digitsOf short closed]
  obtain ⟨c, digits, starts, digit, zero⟩ := Text.digitsOf_eq_cons n
  rw [starts]
  by_cases isZero : c = '0'
  · obtain ⟨-, rfl⟩ := zero isZero
    subst isZero
    obtain rfl | ⟨c, after, rfl, rfl | rfl | rfl | rfl | rfl⟩ := closed
    all_goals rfl
  · rw [List.cons_append, number?]
    intro d rest same
    exact isZero (List.cons.inj same).1

/-! ### Quoted texts -/

theorem lineBody?_append {mark : Char} {run : Text}
    (plain : ∀ c ∈ run, c ≠ mark ∧ c ≠ '\\' ∧ c ≠ '\n') (rest : Text) :
    lineBody? mark (run ++ rest) =
      (lineBody? mark rest).map fun (body, after) => (run ++ body, after) := by
  induction run with
  | nil => simp
  | cons c run ih =>
      rw [List.forall_mem_cons] at plain
      obtain ⟨⟨noMark, noBackslash, noBreak⟩, others⟩ := plain
      rw [List.cons_append, lineBody?]
      · simp [noMark, noBreak, ih others, Function.comp_def]
      · intro d tail same
        exact absurd same noBackslash

/-- No character between two marks is taken for the second mark. -/
theorem lineBody?_escapes {mark c : Char} {written : Text} (quote : mark = '\x27' ∨ mark = '\x22')
    (escapes : Text.Escapes mark c written) (rest : Text) :
    lineBody? mark (written ++ rest) =
      (lineBody? mark rest).map fun (body, after) => (written ++ body, after) := by
  cases escapes with
  | special reserved => rfl
  | letter control => rfl
  | plain visible noMark noBackslash =>
      refine lineBody?_append ?_ rest
      intro d member
      rw [List.mem_singleton.mp member]
      refine ⟨noMark, noBackslash, ?_⟩
      rintro rfl
      cases visible
  | @code letter width form fits =>
      have plain : ∀ d ∈ Text.hexPadded width c.toNat, d ≠ mark ∧ d ≠ '\\' ∧ d ≠ '\n' := by
        intro d member
        have digit := Text.isDigitOf_of_mem_hexPadded member
        refine ⟨?_, ?_, ?_⟩
        · rintro rfl
          rcases quote with rfl | rfl
          · cases digit
          · cases digit
        · rintro rfl
          cases digit
        · rintro rfl
          cases digit
      have skipped : lineBody? mark ('\\' :: letter :: (Text.hexPadded width c.toNat ++ rest)) =
          (lineBody? mark (Text.hexPadded width c.toNat ++ rest)).map fun (body, after) =>
            ('\\' :: letter :: body, after) := rfl
      rw [List.cons_append, List.cons_append, skipped, lineBody?_append plain, Option.map_map]
      rfl

theorem lineBody?_escaped {mark : Char} (quote : mark = '\x27' ∨ mark = '\x22') (text rest : Text) :
    lineBody? mark (text.flatMap (Text.escapeFor mark) ++ mark :: rest) =
      some (text.flatMap (Text.escapeFor mark), rest) := by
  induction text with
  | nil =>
      rw [List.flatMap_nil, List.nil_append, lineBody?]
      · simp
      · rintro c tail rfl
        simp at quote
  | cons c text ih =>
      rw [List.flatMap_cons, List.append_assoc,
        lineBody?_escapes quote (Text.escapes_escapeFor mark c), ih]
      rfl

theorem begins_escapes {mark c : Char} {written : Text} (quote : mark = '\x27' ∨ mark = '\x22')
    (escapes : Text.Escapes mark c written) : ∃ d tail, written = d :: tail ∧ d ≠ mark := by
  have backslash : '\\' ≠ mark := by
    rcases quote with rfl | rfl
    · decide
    · decide
  cases escapes with
  | special => exact ⟨_, _, rfl, backslash⟩
  | letter => exact ⟨_, _, rfl, backslash⟩
  | plain _ noMark _ => exact ⟨_, _, rfl, noMark⟩
  | code => exact ⟨_, _, rfl, backslash⟩

/-- Right behind a mark stands no other, unless the text between them is empty. -/
theorem quoted?_escaped {mark : Char} (quote : mark = '\x27' ∨ mark = '\x22') (text : Text)
    {rest : Text}
    (ends : ∀ c ∈ rest.head?, c ≠ mark) :
    quoted? (mark :: text.flatMap (Text.escapeFor mark) ++ mark :: rest) =
      some (text.flatMap (Text.escapeFor mark), rest) := by
  have single : [mark, mark].isPrefixOf? (text.flatMap (Text.escapeFor mark) ++ mark :: rest) =
      none := by
    cases text with
    | nil =>
        cases rest with
        | nil => simp [List.isPrefixOf?]
        | cons c rest =>
            have other : (mark == c) = false := beq_false_of_ne (ends c rfl).symm
            simp [List.isPrefixOf?, other]
    | cons c text =>
        obtain ⟨d, tail, starts, noMark⟩ := begins_escapes quote (Text.escapes_escapeFor mark c)
        have other : (mark == d) = false := beq_false_of_ne noMark.symm
        simp [starts, List.isPrefixOf?, other]
  rw [List.cons_append, quoted?, single]
  exact lineBody?_escaped quote text rest

/-! ### Tokens -/

theorem next?_digitsOf {n : Nat} {rest : Text} (short : (digitsOf 10 n).length ≤ 4300)
    (closed : Closed rest) :
    next? (digitsOf 10 n ++ rest) = some (.number (.int n), rest) := by
  have read := number?_digitsOf short closed
  obtain ⟨c, digits, starts, digit, -⟩ := Text.digitsOf_eq_cons n
  rw [starts, List.cons_append] at read ⊢
  rw [next?, if_pos (by simp [digit]), read]
  rfl

/-- The token of a quoted text. -/
def quotationOf (text : Text) : Token :=
  .quotation { body := text.flatMap (Text.escapeFor (Text.quoteMark text)) }

theorem next?_quote (text : Text) {rest : Text} (closed : Closed rest) :
    next? (Text.quote text ++ rest) = some (quotationOf text, rest) := by
  have ends : ∀ c ∈ rest.head?, c ≠ Text.quoteMark text := by
    intro c first
    have other := closed.head isQuote (by decide) c first
    rintro rfl
    rcases Text.quoteMark_eq text with mark | mark
    · rw [mark] at other
      cases other
    · rw [mark] at other
      cases other
  have read := quoted?_escaped (Text.quoteMark_eq text) text ends
  have whole : Text.quote text ++ rest = Text.quoteMark text ::
      (text.flatMap (Text.escapeFor (Text.quoteMark text)) ++ Text.quoteMark text :: rest) := by
    simp [Text.quote_eq]
  rw [List.cons_append] at read
  rw [whole, quotationOf]
  rcases Text.quoteMark_eq text with mark | mark
  · rw [mark] at read ⊢
    rw [next?, if_neg (by simp; decide), if_pos (by decide), read]
    rfl
  · rw [mark] at read ⊢
    rw [next?, if_neg (by simp; decide), if_pos (by decide), read]
    rfl

def constantWords : List (Text × Keyword) :=
  [("None".toList, .noneWord), ("True".toList, .trueWord), ("False".toList, .falseWord)]

theorem next?_word {word rest : Text} {meaning : Keyword}
    (constant : (word, meaning) ∈ constantWords) (closed : Closed rest) :
    next? (word ++ rest) = some (.keyword meaning, rest) := by
  have ends : rest.takeWhile isIdentifierByte = [] ∧ rest.dropWhile isIdentifierByte = rest := by
    obtain rfl | ⟨d, after, rfl, rfl | rfl | rfl | rfl | rfl⟩ := closed
    all_goals exact ⟨rfl, rfl⟩
  have words : ∀ entry ∈ constantWords, entry.1.all isIdentifierByte = true := by decide
  have bytes := List.all_eq_true.mp (words _ constant)
  have read : wordOrQuotation? (word ++ rest) = some (.keyword meaning, rest) := by
    rw [wordOrQuotation?, List.takeWhile_append_of_pos bytes, List.dropWhile_append_of_pos bytes,
      ends.1, ends.2, List.append_nil]
    simp only [constantWords, List.mem_cons, Prod.mk.injEq, List.not_mem_nil, or_false] at constant
    rcases constant with ⟨rfl, rfl⟩ | ⟨rfl, rfl⟩ | ⟨rfl, rfl⟩
    all_goals rfl
  simp only [constantWords, List.mem_cons, Prod.mk.injEq, List.not_mem_nil, or_false] at constant
  rcases constant with ⟨rfl, rfl⟩ | ⟨rfl, rfl⟩ | ⟨rfl, rfl⟩
  all_goals exact read

theorem next?_minus {c : Char} (digit : isDigit c = true) (rest : Text) :
    next? ('-' :: c :: rest) = some (.symbol .minus, c :: rest) := by
  have noArrow : ('>' == c) = false := by
    rw [beq_eq_false_iff_ne]
    rintro rfl
    cases digit
  have noEquals : ('=' == c) = false := by
    rw [beq_eq_false_iff_ne]
    rintro rfl
    cases digit
  change symbol? ('-' :: c :: rest) = _
  simp [symbol?, symbols, List.findSome?, List.isPrefixOf?, noArrow, noEquals]

/-! ### Lines of tokens -/

/-- With so many brackets open the rest of a line has these tokens. -/
def Scans (openings : Nat) (text : Text) (tokens : List Token) : Prop :=
  ∀ steps, text.length < steps → scanLine steps openings text = some tokens

/-- Neither a blank nor the end of the line nor the beginning of a comment. -/
def BeginsToken (text : Text) : Prop :=
  ∃ c tail, text = c :: tail ∧ c ∉ ['\n', '#', '\\', ' ', '\t', '\x0c']

theorem BeginsToken.append {text : Text} (begins : BeginsToken text) (rest : Text) :
    BeginsToken (text ++ rest) := by
  obtain ⟨c, tail, rfl, ordinary⟩ := begins
  exact ⟨c, tail ++ rest, rfl, ordinary⟩

theorem BeginsToken.length_pos {text : Text} (begins : BeginsToken text) : 0 < text.length := by
  obtain ⟨c, tail, rfl, -⟩ := begins
  exact Nat.zero_lt_succ _

theorem scanLine_token {text after : Text} {token : Token} (begins : BeginsToken text)
    (found : next? text = some (token, after)) (steps openings : Nat) :
    scanLine (steps + 1) openings text =
      if token.isOpening then
        if openings < bracketLimit then (scanLine steps (openings + 1) after).map (token :: ·)
        else none
      else if token.isClosing then
        if openings = 0 then none else (scanLine steps (openings - 1) after).map (token :: ·)
      else (scanLine steps openings after).map (token :: ·) := by
  obtain ⟨c, tail, rfl, ordinary⟩ := begins
  simp only [List.mem_cons, List.not_mem_nil, or_false, not_or] at ordinary
  rw [scanLine]
  · simp only [isInlineSpace, ordinary, beq_iff_eq, Bool.or_eq_true, or_self, if_false, found]
    cases openings with
    | zero => simp
    | succ openings => simp
  all_goals simp [ordinary]

variable {openings : Nat} {text after : Text} {token : Token} {tokens : List Token}

theorem scans_nil (openings : Nat) : Scans openings [] [] := by
  intro steps enough
  cases steps with
  | zero => cases enough
  | succ steps => rfl

theorem scans_space (scans : Scans openings text tokens) : Scans openings (' ' :: text) tokens := by
  intro steps enough
  cases steps with
  | zero => cases enough
  | succ steps => exact scans steps (Nat.lt_of_succ_lt_succ enough)

theorem scans_token (begins : BeginsToken text) (found : next? text = some (token, after))
    (shorter : after.length < text.length) (noOpening : token.isOpening = false)
    (noClosing : token.isClosing = false) (scans : Scans openings after tokens) :
    Scans openings text (token :: tokens) := by
  intro steps enough
  cases steps with
  | zero => cases enough
  | succ steps =>
      rw [scanLine_token begins found, noOpening, noClosing, scans steps (by omega)]
      rfl

theorem scans_opening (begins : BeginsToken text) (found : next? text = some (token, after))
    (shorter : after.length < text.length) (opening : token.isOpening = true)
    (below : openings < bracketLimit) (scans : Scans (openings + 1) after tokens) :
    Scans openings text (token :: tokens) := by
  intro steps enough
  cases steps with
  | zero => cases enough
  | succ steps =>
      rw [scanLine_token begins found, if_pos opening, if_pos below, scans steps (by omega)]
      rfl

theorem scans_closing (begins : BeginsToken text) (found : next? text = some (token, after))
    (shorter : after.length < text.length) (noOpening : token.isOpening = false)
    (closing : token.isClosing = true) (scans : Scans openings after tokens) :
    Scans (openings + 1) text (token :: tokens) := by
  intro steps enough
  cases steps with
  | zero => cases enough
  | succ steps =>
      rw [scanLine_token begins found, noOpening, if_neg Bool.false_ne_true, if_pos closing,
        if_neg (Nat.succ_ne_zero openings), Nat.add_sub_cancel, scans steps (by omega)]
      rfl

theorem normalizeLines_of_noReturn (noReturn : '\r' ∉ text) : Text.normalizeLines text = text := by
  induction text with
  | nil => rfl
  | cons c rest ih =>
      rw [List.mem_cons, not_or] at noReturn
      rw [Text.normalizeLines, ih noReturn.2]
      · intro tail same
        exact absurd same.symm noReturn.1
      · intro same
        exact absurd same.symm noReturn.1

/-- A text on one line is scanned as it stands. -/
theorem scan_of_scans (begins : BeginsToken text) (noReturn : '\r' ∉ text)
    (scans : Scans 0 text tokens) : scan text = some tokens := by
  have line : nextLine? false 0 0 text = some (0, text) := by
    obtain ⟨c, tail, rfl, ordinary⟩ := begins
    simp only [List.mem_cons, List.not_mem_nil, or_false, not_or] at ordinary
    rw [nextLine?]
    · simp [ordinary]
    all_goals simp [ordinary]
  simp only [scan, normalizeLines_of_noReturn noReturn, line]
  exact scans _ (Nat.lt_succ_self _)

end CommentSchema.Token
