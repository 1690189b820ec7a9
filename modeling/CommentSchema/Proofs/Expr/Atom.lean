import CommentSchema.Expr.Parser
import CommentSchema.Proofs.Expr.Token

/-! An atom read as an expression.  Where a comma, a colon or a closing bracket follows, no level
of operators takes anything more, so what reads the atom reads the expression. -/

namespace CommentSchema.Expr

/-- The tokens in front of which an expression ends. -/
inductive Stops : Tokens → Prop where
  | nil : Stops []
  | comma (after : Tokens) : Stops (.symbol .comma :: after)
  | colon (after : Tokens) : Stops (.symbol .colon :: after)
  | closeParen (after : Tokens) : Stops (.symbol .closeParen :: after)
  | closeBracket (after : Tokens) : Stops (.symbol .closeBracket :: after)
  | closeBrace (after : Tokens) : Stops (.symbol .closeBrace :: after)

variable [Dialect] {rest : Tokens} {steps : Nat}

section

variable (stops : Stops rest)

include stops

theorem readTrailers_stops (base : Expr) :
    readTrailers (steps + 1) base rest = some (base, rest) := by
  rw [readTrailers.eq_def]
  cases stops with
  | _ => rfl

theorem readMoreOperators_stops (level : Nat) (left : Expr) :
    readMoreOperators (steps + 1) level left rest = some (left, rest) := by
  rw [readMoreOperators.eq_def]
  cases stops with
  | _ => rfl

theorem readCompared_stops : readCompared (steps + 1) rest = some ([], rest) := by
  rw [readCompared.eq_def]
  cases stops with
  | _ => rfl

theorem readPrimary_of_atom {tokens : Tokens} {expr : Expr}
    (read : readAtom (steps + 1) tokens = some (expr, rest)) :
    readPrimary (steps + 2) tokens = some (expr, rest) := by
  rw [readPrimary, read]
  exact readTrailers_stops stops expr

end

/-- The tokens that a literal without a sign begins with. -/
def startsAtom : Token → Bool
  | .number _ | .quotation _ => true
  | .keyword word => (constantWord? word).isSome
  | .symbol symbol => symbol = .openParen || symbol = .openBracket || symbol = .openBrace
  | .name _ => false

variable {first : Token} {tail : Tokens} {expr : Expr}

theorem readFactor_of_atom (starts : startsAtom first = true) (stops : Stops rest)
    (read : readAtom (steps + 1) (first :: tail) = some (expr, rest)) :
    readFactor (steps + 4) (first :: tail) = some (expr, rest) := by
  have primary := readPrimary_of_atom stops read
  have power : readPower (steps + 3) (first :: tail) = some (expr, rest) := by
    rw [readPower, primary]
    · cases stops with
      | _ => rfl
    · rintro others same
      cases same
      cases starts
  cases first with
  | symbol symbol =>
      have unsigned : unarySign? symbol = none := by
        cases symbol with
        | openParen | openBracket | openBrace => rfl
        | _ => cases starts
      rw [readFactor, unsigned]
      exact power
  | _ =>
      rw [readFactor]
      · exact power
      · rintro symbol others same
        cases same

theorem readExpression_of_factor (noLambda : first ≠ .keyword .lambdaWord)
    (noNegation : first ≠ .keyword .notWord) (stops : Stops rest)
    (read : readFactor (steps + 1) (first :: tail) = some (expr, rest)) :
    readExpression (steps + 7) (first :: tail) = some (expr, rest) := by
  have operators : readOperators (steps + 2) 0 (first :: tail) = some (expr, rest) := by
    rw [readOperators, read]
    exact readMoreOperators_stops stops 0 expr
  have inversion : readInversion (steps + 3) (first :: tail) = some (expr, rest) := by
    rw [readInversion, operators]
    · simp only [Option.bind_eq_bind, Option.bind_some, readCompared_stops stops]
      rfl
    · rintro others same
      cases same
      exact noNegation rfl
  have conjuncts : readConjuncts (steps + 4) (first :: tail) = some ([expr], rest) := by
    rw [readConjuncts, inversion]
    cases stops with
    | _ => rfl
  have disjuncts : readDisjuncts (steps + 5) (first :: tail) = some ([expr], rest) := by
    rw [readDisjuncts, conjuncts]
    cases stops with
    | _ => rfl
  have disjunction : readDisjunction (steps + 6) (first :: tail) = some (expr, rest) := by
    rw [readDisjunction, disjuncts]
    rfl
  rw [readExpression, disjunction]
  · cases stops with
    | _ => rfl
  · rintro others same
    cases same
    exact noLambda rfl

theorem readExpression_of_atom (starts : startsAtom first = true) (stops : Stops rest)
    (read : readAtom (steps + 1) (first :: tail) = some (expr, rest)) :
    readExpression (steps + 10) (first :: tail) = some (expr, rest) := by
  refine readExpression_of_factor ?_ ?_ stops (readFactor_of_atom starts stops read)
  · rintro rfl
    cases starts
  · rintro rfl
    cases starts

/-! ### Quoted texts -/

open Text (Escapes)

/-- An escaped character is decoded as this character, whatever stands behind it. -/
theorem decode?_escapes {mark c : Char} {written : Text} (quote : mark = '\x27' ∨ mark = '\x22')
    (escapes : Escapes mark c written) (rest : Text) :
    Escape.decode? (written ++ rest) = (Escape.decode? rest).map (.char c :: ·) := by
  cases escapes with
  | special reserved =>
      have same : c = '\\' ∨ c = '\x27' ∨ c = '\x22' := by
        rcases reserved with rfl | rfl
        · exact .inr quote
        · exact .inl rfl
      rcases same with rfl | rfl | rfl
      all_goals
        rw [List.cons_append, List.cons_append, List.nil_append, Escape.decode?]
        · rfl
        · simp
  | letter control =>
      simp only [List.mem_cons, Prod.mk.injEq, List.not_mem_nil, or_false] at control
      rcases control with ⟨rfl, rfl⟩ | ⟨rfl, rfl⟩ | ⟨rfl, rfl⟩
      all_goals
        rw [List.cons_append, List.cons_append, List.nil_append, Escape.decode?]
        · rfl
        · simp
  | plain visible noMark noBackslash =>
      rw [List.singleton_append, Escape.decode?]
      · intro tail same
        exact absurd same noBackslash
      · intro d tail same
        exact absurd same noBackslash
  | @code letter width form fits =>
      have wide : 0 < width := by
        have positive : ∀ entry ∈ [('x', 2), ('u', 4), ('U', 8)], 0 < entry.2 := by decide
        exact positive _ form
      have length := Text.length_hexPadded wide fits
      have spanned : Text.spanDigits 16 width (Text.hexPadded width c.toNat ++ rest) =
          (Text.hexPadded width c.toNat, rest) :=
        Text.spanDigits_append_eq (fun _ member => Text.isDigitOf_of_mem_hexPadded member)
          (Nat.le_of_eq length) (.inl length)
      have noLetter : Escape.letter? letter = none ∧ Escape.codeWidth? letter = some width := by
        simp only [List.mem_cons, Prod.mk.injEq, List.not_mem_nil, or_false] at form
        rcases form with ⟨rfl, rfl⟩ | ⟨rfl, rfl⟩ | ⟨rfl, rfl⟩
        all_goals exact ⟨rfl, rfl⟩
      have noBreak : letter ≠ '\n' := by
        rintro rfl
        simp at form
      rw [List.cons_append, List.cons_append, Escape.decode?]
      · simp only [noLetter, spanned, length, Nat.le_refl, if_true, Text.numberOf_hexPadded,
          Escape.point?_toNat]
      · exact noBreak

theorem decode?_escaped {mark : Char} (quote : mark = '\x27' ∨ mark = '\x22') (text : Text) :
    Escape.decode? (text.flatMap (Text.escapeFor mark)) = some (text.map .char) := by
  induction text with
  | nil => rw [List.flatMap_nil, Escape.decode?, List.map_nil]
  | cons c text ih =>
      rw [List.flatMap_cons, decode?_escapes quote (Text.escapes_escapeFor mark c), ih]
      rfl

theorem readAtom_quotationOf (text : Text) (stops : Stops rest) :
    readAtom (steps + 2) (Token.quotationOf text :: rest) =
      some (.constant (.str text false), rest) := by
  have alone : spanQuotations (Token.quotationOf text :: rest) =
      ([{ body := text.flatMap (Text.escapeFor (Text.quoteMark text)) }], rest) := by
    rw [Token.quotationOf, spanQuotations]
    cases stops with
    | _ => rfl
  rw [Token.quotationOf] at alone ⊢
  rw [readAtom, alone]
  simp only [readQuotations]
  simp [plainQuotation?, decoded?, decode?_escaped (Text.quoteMark_eq text), Constant.quoted]

end CommentSchema.Expr
