import CommentSchema.Expr.Lexer
import Mathlib

/-! What the tokens of a text can quote.  A quotation stands between two marks, and only one of
them counts in its weight, so where anything is quoted the tokens weigh less than the text that
they were read from is long. -/

namespace CommentSchema

open Std.Do

set_option mvcgen.warning false

@[spec] theorem some_triple (value : α) {post : PostCond α (.except PUnit .pure)} :
    ⦃post.1 value⦄ (some value : Option α) ⦃post⦄ := by
  intro holds
  exact holds

@[spec] theorem map_triple (change : α → β) (outcome : Option α)
    {post : PostCond β (.except PUnit .pure)} :
    ⦃wp⟦outcome⟧ (fun value => post.1 (change value), post.2)⦄ outcome.map change ⦃post⦄ := by
  intro holds
  cases outcome with
  | none => exact holds
  | some value => exact holds

theorem triple_iff {outcome : Option α} {start : Prop} {holds : α → Prop} :
    (⦃⌜start⌝⦄ outcome ⦃⇓? value => ⌜holds value⌝⦄) ↔
      (start → ∀ value, outcome = some value → holds value) := by
  constructor
  · rintro triple start value rfl
    exact triple start
  · intro found start
    cases outcome with
    | none => exact trivial
    | some value => exact found start value rfl

theorem of_triple {outcome : Option α} {start : Prop} {holds : α → Prop} {value : α}
    (triple : ⦃⌜start⌝⦄ outcome ⦃⇓? value => ⌜holds value⌝⦄) (started : start)
    (found : outcome = some value) : holds value :=
  triple_iff.mp triple started value found

namespace Text

theorem length_of_isPrefixOf? {word text after : Text}
    (found : word.isPrefixOf? text = some after) : word.length + after.length = text.length := by
  rw [← List.length_append, List.isPrefixOf?_eq_some_iff_append_eq.mp found]

theorem normalizeLines_length_le (text : Text) : (normalizeLines text).length ≤ text.length := by
  fun_induction normalizeLines text with
  | case1 => exact Nat.le_refl 0
  | case2 | case3 | case4 =>
      simp only [List.length_cons]
      omega

end Text

namespace Token

/-- The text that a token quotes counts, and one more for the quotation itself.  So does a text
in the place of a number, which no text is read as. -/
def weight : Token → Nat
  | .quotation content => content.body.length + 1
  | .number (.str text _) => text.length + 1
  | .number (.torn content _) => content.points.length + 1
  | _ => 0

/-! ### Numbers -/

@[spec] theorem digitGroups_triple (base : Nat) (text : Text) :
    ⦃⌜True⌝⦄ digitGroups base text ⦃⇓? found => ⌜found.2.length ≤ text.length⌝⦄ := by
  fun_induction digitGroups base text with
  | case2 _ _ _ ih | case5 _ _ _ _ ih =>
      mvcgen [ih]
      all_goals grind
  | _ => mvcgen

@[spec] theorem based?_triple (base : Nat) (text : Text) :
    ⦃⌜True⌝⦄ based? base text
    ⦃⇓? found => ⌜weight (.number found.1) = 0 ∧ found.2.length ≤ text.length⌝⦄ := by
  mvcgen [based?]
  next found _ =>
      have shorter := of_triple (digitGroups_triple base text) trivial found
      exact ⟨rfl, shorter⟩

@[spec] theorem fraction?_triple (text : Text) :
    ⦃⌜True⌝⦄ fraction? text ⦃⇓? found => ⌜found.2.length ≤ text.length⌝⦄ := by
  mvcgen [fraction?]
  all_goals grind

@[spec] theorem exponent?_triple (text : Text) :
    ⦃⌜True⌝⦄ exponent? text ⦃⇓? found => ⌜found.2.length ≤ text.length⌝⦄ := by
  mvcgen [exponent?]
  all_goals grind

@[spec] theorem decimal?_triple (text : Text) :
    ⦃⌜True⌝⦄ decimal? text
    ⦃⇓? found => ⌜weight (.number found.1) = 0 ∧ found.2.length ≤ text.length⌝⦄ := by
  mvcgen [decimal?]
  all_goals grind [weight]

@[spec] theorem number?_triple (text : Text) :
    ⦃⌜True⌝⦄ number? text
    ⦃⇓? found => ⌜weight (.number found.1) = 0 ∧ found.2.length ≤ text.length⌝⦄ := by
  mvcgen [number?]
  all_goals grind

/-! ### Quotations -/

@[spec] theorem lineBody?_triple (mark : Char) (text : Text) :
    ⦃⌜True⌝⦄ lineBody? mark text
    ⦃⇓? found => ⌜found.1.length + found.2.length < text.length⌝⦄ := by
  fun_induction lineBody? mark text with
  | case2 _ _ ih | case5 _ _ _ _ _ ih =>
      mvcgen [ih]
      all_goals grind
  | _ =>
      mvcgen
      all_goals grind

@[spec] theorem blockBody?_triple (mark : Char) (text : Text) :
    ⦃⌜True⌝⦄ blockBody? mark text
    ⦃⇓? found => ⌜found.1.length + found.2.length < text.length⌝⦄ := by
  fun_induction blockBody? mark text with
  | case2 _ _ ih | case4 _ _ _ _ ih =>
      mvcgen [ih]
      all_goals grind
  | _ =>
      mvcgen
      all_goals grind [→ Text.length_of_isPrefixOf?]

@[spec] theorem quoted?_triple (text : Text) :
    ⦃⌜True⌝⦄ quoted? text
    ⦃⇓? found => ⌜found.1.length + 1 + found.2.length < text.length⌝⦄ := by
  mvcgen [quoted?]
  all_goals grind [→ Text.length_of_isPrefixOf?]

theorem body_of_quotationMarks? {word : Text} {make : Text → Quotation}
    (marks : quotationMarks? word = some make) (body : Text) : (make body).body = body := by
  unfold quotationMarks? at marks
  grind

/-! ### Tokens -/

/-- What a token weighs fits into what has been taken for it, with room to spare if it is
anything. -/
def Takes (token : Token) (text rest : Text) : Prop :=
  rest.length ≤ text.length ∧ (token.weight = 0 ∨ token.weight + rest.length < text.length)

attribute [grind] Takes

@[spec] theorem word?_triple (word : Text) :
    ⦃⌜True⌝⦄ word? word ⦃⇓? token => ⌜token.weight = 0⌝⦄ := by
  mvcgen [word?]

@[spec] theorem wordOrQuotation?_triple (text : Text) :
    ⦃⌜True⌝⦄ wordOrQuotation? text ⦃⇓? found => ⌜Takes found.1 text found.2⌝⦄ := by
  have shorter := List.length_dropWhile_le isIdentifierByte text
  mvcgen [wordOrQuotation?]
  · next _ marks _ =>
      simp only [Takes, weight, body_of_quotationMarks? marks]
      grind
  · grind

@[spec] theorem symbol?_triple (text : Text) :
    ⦃⌜True⌝⦄ symbol? text ⦃⇓? found => ⌜Takes found.1 text found.2⌝⦄ := by
  cases found : symbol? text with
  | none => mvcgen
  | some outcome =>
      obtain ⟨_, _, found⟩ := List.exists_of_findSome?_eq_some found
      obtain ⟨rest, here, rfl⟩ := Option.map_eq_some_iff.mp found
      have length := Text.length_of_isPrefixOf? here
      mvcgen
      exact ⟨by omega, .inl rfl⟩

theorem next?_triple (text : Text) :
    ⦃⌜True⌝⦄ next? text ⦃⇓? found => ⌜Takes found.1 text found.2⌝⦄ := by
  mvcgen [next?]
  all_goals grind [weight]

theorem takes_of_next? {text rest : Text} {token : Token}
    (found : next? text = some (token, rest)) : Takes token text rest := by
  have bound := of_triple (next?_triple text) trivial found
  exact bound

/-! ### Lines -/

/-- The weights of tokens together. -/
def weigh (tokens : List Token) : Nat := (tokens.map weight).sum

@[simp, grind =] theorem weigh_nil : weigh [] = 0 := rfl

@[simp, grind =] theorem weigh_cons (token : Token) (rest : List Token) :
    weigh (token :: rest) = token.weight + weigh rest := by
  rw [weigh, List.map_cons, List.sum_cons, weigh]

theorem skipComment_length_le (text : Text) : (skipComment text).length ≤ text.length :=
  List.length_dropWhile_le _ text

theorem length_le_of_nextLine? {inComment : Bool} {splitAt column indent : Nat}
    {text line : Text} (found : nextLine? inComment splitAt column text = some (indent, line)) :
    line.length ≤ text.length := by
  fun_induction nextLine? inComment splitAt column text with
  | _ => grind

theorem scanLine_triple (steps openings : Nat) (text : Text) :
    ⦃⌜True⌝⦄ scanLine steps openings text
    ⦃⇓? tokens => ⌜weigh tokens = 0 ∨ weigh tokens < text.length⌝⦄ := by
  induction steps generalizing openings text with
  | zero => mvcgen [scanLine]
  | succ steps ih =>
      rw [scanLine.eq_def]
      mvcgen [ih]
      all_goals grind [skipComment_length_le, → takes_of_next?]

/-- Every token takes a step of the scan, and so does the end. -/
theorem scanLine_short (steps openings : Nat) (text : Text) :
    ⦃⌜True⌝⦄ scanLine steps openings text ⦃⇓? tokens => ⌜tokens.length < steps⌝⦄ := by
  induction steps generalizing openings text with
  | zero => mvcgen [scanLine]
  | succ steps ih =>
      rw [scanLine.eq_def]
      mvcgen [ih]
      all_goals grind

theorem length_le_of_scan {text : Text} {tokens : List Token} (found : scan text = some tokens) :
    tokens.length ≤ text.length := by
  have normalized := Text.normalizeLines_length_le text
  simp only [scan] at found
  split at found
  · next line first =>
      have inLine := length_le_of_nextLine? first
      have inTokens := of_triple (scanLine_short _ 0 line) trivial found
      omega
  · cases found

theorem weigh_of_scan {text : Text} {tokens : List Token} (found : scan text = some tokens) :
    weigh tokens = 0 ∨ weigh tokens < text.length := by
  have normalized := Text.normalizeLines_length_le text
  simp only [scan] at found
  split at found
  · next line first =>
      have inLine := length_le_of_nextLine? first
      have inTokens := of_triple (scanLine_triple _ 0 line) trivial found
      omega
  · cases found

end Token

end CommentSchema
