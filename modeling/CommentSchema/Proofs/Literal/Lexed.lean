import CommentSchema.Literal.Writer
import CommentSchema.Proofs.Expr.Token
import CommentSchema.Proofs.Literal.Plain
import CommentSchema.Proofs.Text.Trimming
import Mathlib.Data.List.Forall2

/-! The tokens of a written literal.  It is written on one line, without blanks around it, in
characters that can be shown. -/

namespace CommentSchema.Literal

open Text (Closed digitsOf)
open Token (Scans BeginsToken)

/-- Tokens in groups with commas between them. -/
def listed : List (List Token) → List Token
  | [] => []
  | [tokens] => tokens
  | tokens :: rest => tokens ++ .symbol .comma :: listed rest

theorem listed_cons (tokens : List Token) {rest : List (List Token)} (more : rest ≠ []) :
    listed (tokens :: rest) = tokens ++ .symbol .comma :: listed rest := by
  cases rest with
  | nil => exact absurd rfl more
  | cons => rfl

mutual
/-- The tokens that a plain value is written with. -/
def tokensOf (value : Value) : List Token :=
  match value with
  | .null => [.keyword .noneWord]
  | .bool true => [.keyword .trueWord]
  | .bool false => [.keyword .falseWord]
  | .int n => if n < 0 then [.symbol .minus, .number (.int n.natAbs)] else [.number (.int n.natAbs)]
  | .str text => [Token.quotationOf text]
  | .list items => .symbol .openBracket :: (listed (tokensOfEach items) ++ [.symbol .closeBracket])
  | .tuple items =>
      .symbol .openParen :: (listed (tokensOfEach items)
        ++ (if items.length = 1 then [.symbol .comma] else []) ++ [.symbol .closeParen])
  | .dict entries =>
      .symbol .openBrace :: (listed (tokensOfEntries entries) ++ [.symbol .closeBrace])
  | .float _ | .complex .. | .torn _ | .bytes _ | .ellipsis | .set _ => []
termination_by structural value

def tokensOfEach (items : List Value) : List (List Token) :=
  match items with
  | [] => []
  | item :: rest => tokensOf item :: tokensOfEach rest
termination_by structural items

def tokensOfEntries (entries : List (Value × Value)) : List (List Token) :=
  match entries with
  | [] => []
  | (key, value) :: rest =>
      (tokensOf key ++ .symbol .colon :: tokensOf value) :: tokensOfEntries rest
termination_by structural entries
end

theorem tokensOfEach_eq_map (items : List Value) : tokensOfEach items = items.map tokensOf := by
  induction items with
  | nil => rfl
  | cons first rest ih => exact congrArg (tokensOf first :: ·) ih

theorem tokensOf_list (items : List Value) : tokensOf (.list items) =
    .symbol .openBracket :: (listed (items.map tokensOf) ++ [.symbol .closeBracket]) := by
  rw [tokensOf, tokensOfEach_eq_map]

theorem tokensOf_tuple (items : List Value) : tokensOf (.tuple items) =
    .symbol .openParen :: (listed (items.map tokensOf)
      ++ (if items.length = 1 then [.symbol .comma] else []) ++ [.symbol .closeParen]) := by
  rw [tokensOf, tokensOfEach_eq_map]

def tokensOfEntry (entry : Value × Value) : List Token :=
  tokensOf entry.1 ++ .symbol .colon :: tokensOf entry.2

theorem tokensOf_dict (entries : List (Value × Value)) : tokensOf (.dict entries) =
    .symbol .openBrace :: (listed (entries.map tokensOfEntry) ++ [.symbol .closeBrace]) := by
  have each : tokensOfEntries entries = entries.map tokensOfEntry := by
    induction entries with
    | nil => rfl
    | cons first rest ih => exact congrArg (tokensOfEntry first :: ·) ih
  rw [tokensOf, each]

/-! ### Scanning -/

/-- The text is scanned as these tokens where so many more brackets may be opened and nothing
runs into it. -/
def ScannedAs (written : Text) (depth : Nat) (tokens : List Token) : Prop :=
  ∀ ⦃openings : Nat⦄ ⦃rest : Text⦄ ⦃more : List Token⦄, openings + depth ≤ Token.bracketLimit →
    Closed rest → Scans openings rest more → Scans openings (written ++ rest) (tokens ++ more)

variable {written : Text} {depth : Nat} {tokens : List Token}

theorem scannedAs_token {token : Token} (begins : BeginsToken written)
    (found : ∀ rest, Closed rest → Token.next? (written ++ rest) = some (token, rest))
    (noOpening : token.isOpening = false) (noClosing : token.isClosing = false) :
    ScannedAs written 0 [token] := by
  intro openings rest more _ closed scans
  have longer := begins.length_pos
  exact Token.scans_token (begins.append rest) (found rest closed)
    (by rw [List.length_append]; omega) noOpening noClosing scans

theorem ScannedAs.weaken (scanned : ScannedAs written depth tokens) {more : Nat}
    (deeper : depth ≤ more) : ScannedAs written more tokens := by
  intro openings rest others below closed scans
  exact scanned (by omega) closed scans

theorem scans_comma {openings : Nat} {rest : Text} (scans : Scans openings rest tokens) :
    Scans openings (',' :: rest) (.symbol .comma :: tokens) :=
  Token.scans_token ⟨',', rest, rfl, by decide⟩ rfl (Nat.lt_succ_self _) rfl rfl scans

theorem scans_colon {openings : Nat} {rest : Text} (scans : Scans openings rest tokens) :
    Scans openings (':' :: ' ' :: rest) (.symbol .colon :: tokens) :=
  Token.scans_token ⟨':', ' ' :: rest, rfl, by decide⟩ rfl (Nat.lt_succ_self _) rfl rfl
    (Token.scans_space scans)

theorem scannedAs_join {pieces : List Text} {groups : List (List Token)}
    (each : List.Forall₂ (fun piece group => ScannedAs piece depth group) pieces groups) :
    ScannedAs (Text.join [',', ' '] pieces) depth (listed groups) := by
  induction each with
  | nil =>
      intro openings rest more _ _ scans
      exact scans
  | @cons piece group pieces groups first others ih =>
      cases others with
      | nil => exact first
      | cons second others =>
          intro openings rest more below closed scans
          rw [Text.join_cons _ _ (by simp), listed_cons _ (by simp), List.append_assoc,
            List.append_assoc, List.append_assoc]
          refine first below (.comma _) ?_
          exact scans_comma (Token.scans_space (ih below closed scans))

theorem ScannedAs.comma (scanned : ScannedAs written depth tokens) :
    ScannedAs (written ++ [',']) depth (tokens ++ [.symbol .comma]) := by
  intro openings rest more below closed scans
  rw [List.append_assoc, List.append_assoc]
  exact scanned below (.comma rest) (scans_comma scans)

theorem ScannedAs.entry {key value : Text} {ofKey ofValue : List Token}
    (scannedKey : ScannedAs key depth ofKey) (scannedValue : ScannedAs value depth ofValue) :
    ScannedAs (key ++ ':' :: ' ' :: value) depth (ofKey ++ .symbol .colon :: ofValue) := by
  intro openings rest more below closed scans
  rw [List.append_assoc, List.append_assoc]
  exact scannedKey below (.colon _) (scans_colon (scannedValue below closed scans))

/-- Characters and symbols that open and close a display. -/
structure Brackets (opening closing : Char) (opens closes : Symbol) : Prop where
  beginsOpening : ∀ rest, BeginsToken (opening :: rest)
  beginsClosing : ∀ rest, BeginsToken (closing :: rest)
  nextOpening : ∀ rest, Token.next? (opening :: rest) = some (.symbol opens, rest)
  nextClosing : ∀ rest, Token.next? (closing :: rest) = some (.symbol closes, rest)
  isOpening : Token.isOpening (.symbol opens) = true
  notOpening : Token.isOpening (.symbol closes) = false
  isClosing : Token.isClosing (.symbol closes) = true
  closed : ∀ rest, Closed (closing :: rest)

theorem squareBrackets : Brackets '[' ']' .openBracket .closeBracket :=
  ⟨fun _ => ⟨_, _, rfl, by decide⟩, fun _ => ⟨_, _, rfl, by decide⟩, fun _ => rfl, fun _ => rfl,
    rfl, rfl, rfl, .bracket⟩

theorem parentheses : Brackets '(' ')' .openParen .closeParen :=
  ⟨fun _ => ⟨_, _, rfl, by decide⟩, fun _ => ⟨_, _, rfl, by decide⟩, fun _ => rfl, fun _ => rfl,
    rfl, rfl, rfl, .parenthesis⟩

theorem braces : Brackets '\x7b' '\x7d' .openBrace .closeBrace :=
  ⟨fun _ => ⟨_, _, rfl, by decide⟩, fun _ => ⟨_, _, rfl, by decide⟩, fun _ => rfl, fun _ => rfl,
    rfl, rfl, rfl, .brace⟩

theorem ScannedAs.inside {opening closing : Char} {opens closes : Symbol}
    (scanned : ScannedAs written depth tokens)
    (brackets : Brackets opening closing opens closes) :
    ScannedAs (opening :: written ++ [closing]) (depth + 1)
      (.symbol opens :: (tokens ++ [.symbol closes])) := by
  intro openings rest more below closed scans
  have closes : Scans (openings + 1) (closing :: rest) (.symbol closes :: more) :=
    Token.scans_closing (brackets.beginsClosing rest) (brackets.nextClosing rest)
      (Nat.lt_succ_self _) brackets.notOpening brackets.isClosing scans
  have content := scanned (by omega) (brackets.closed rest) closes
  have opens := Token.scans_opening (brackets.beginsOpening _) (brackets.nextOpening _)
    (Nat.lt_succ_self _) brackets.isOpening (by omega) content
  simpa using opens

theorem forall₂_map {pieceOf : α → Text} {groupOf : α → List Token} {items : List α}
    (each : ∀ item ∈ items, ScannedAs (pieceOf item) depth (groupOf item)) :
    List.Forall₂ (fun piece group => ScannedAs piece depth group)
      (items.map pieceOf) (items.map groupOf) := by
  rw [List.forall₂_map_left_iff, List.forall₂_map_right_iff, List.forall₂_same]
  exact each

theorem scannedAs_null : ScannedAs (write .null) 0 (tokensOf .null) :=
  scannedAs_token ⟨_, _, rfl, by decide⟩ (fun _ closed => Token.next?_word (by decide) closed)
    rfl rfl

theorem scannedAs_bool (flag : Bool) :
    ScannedAs (write (.bool flag)) 0 (tokensOf (.bool flag)) := by
  cases flag with
  | false =>
      exact scannedAs_token ⟨_, _, rfl, by decide⟩
        (fun _ closed => Token.next?_word (by decide) closed) rfl rfl
  | true =>
      exact scannedAs_token ⟨_, _, rfl, by decide⟩
        (fun _ closed => Token.next?_word (by decide) closed) rfl rfl

theorem beginsToken_digitsOf (n : Nat) : BeginsToken (digitsOf 10 n) := by
  obtain ⟨c, digits, starts, digit, -⟩ := Text.digitsOf_eq_cons n
  refine ⟨c, digits, starts, ?_⟩
  intro special
  have none : ['\n', '#', '\\', ' ', '\t', '\x0c'].any Text.isDigit = false := by decide
  exact List.any_eq_false.mp none c special digit

theorem scannedAs_digitsOf {n : Nat} (short : (digitsOf 10 n).length ≤ 4300) :
    ScannedAs (digitsOf 10 n) 0 [.number (.int n)] :=
  scannedAs_token (beginsToken_digitsOf n) (fun _ closed => Token.next?_digitsOf short closed)
    rfl rfl

theorem scannedAs_int {n : Int} (short : (digitsOf 10 n.natAbs).length ≤ 4300) :
    ScannedAs (Text.ofInt n) 0 (tokensOf (.int n)) := by
  cases n with
  | ofNat n => exact scannedAs_digitsOf short
  | negSucc n =>
      intro openings rest more below closed scans
      have digits := scannedAs_digitsOf short below closed scans
      obtain ⟨c, tail, starts, digit, -⟩ := Text.digitsOf_eq_cons (n + 1)
      have minus : Token.next? ('-' :: (digitsOf 10 (n + 1) ++ rest)) =
          some (.symbol .minus, digitsOf 10 (n + 1) ++ rest) := by
        rw [starts]
        exact Token.next?_minus digit _
      rw [tokensOf, if_pos (Int.negSucc_lt_zero n)]
      exact Token.scans_token ⟨'-', _, rfl, by decide⟩ minus (Nat.lt_succ_self _) rfl rfl digits

theorem beginsToken_quote (text : Text) : BeginsToken (Text.quote text) := by
  rw [Text.quote_eq]
  rcases Text.quoteMark_eq text with mark | mark
  · exact ⟨_, _, rfl, by rw [mark]; decide⟩
  · exact ⟨_, _, rfl, by rw [mark]; decide⟩

theorem scannedAs_str (text : Text) : ScannedAs (Text.quote text) 0 [Token.quotationOf text] :=
  scannedAs_token (beginsToken_quote text) (fun _ closed => Token.next?_quote text closed) rfl rfl

/-- A plain value is scanned as its tokens. -/
theorem scannedAs_write {value : Value} (plain : Value.Plain true value) :
    ScannedAs (write value) value.nesting (tokensOf value) := by
  induction plain with
  | null => exact scannedAs_null
  | bool flag => exact scannedAs_bool flag
  | int n short => exact scannedAs_int short
  | str text => exact scannedAs_str text
  | @list items _ each =>
      rw [write_list, tokensOf_list, Value.nesting]
      refine ScannedAs.inside (scannedAs_join (forall₂_map ?_)) squareBrackets
      intro item member
      exact (each item member).weaken (Value.nesting_le_of_mem member)
  | @tuple items _ _ each =>
      rw [write_tuple, tokensOf_tuple, Value.nesting]
      have joined : ScannedAs (Text.join [',', ' '] (items.map write))
          (Value.nestingOfEach items) (listed (items.map tokensOf)) := by
        refine scannedAs_join (forall₂_map ?_)
        intro item member
        exact (each item member).weaken (Value.nesting_le_of_mem member)
      by_cases single : items.length = 1
      · rw [if_pos single, if_pos single]
        exact joined.comma.inside parentheses
      · rw [if_neg single, if_neg single, List.append_nil, List.append_nil]
        exact joined.inside parentheses
  | @dict members _ _ each =>
      rw [write_dict, tokensOf_dict, Value.nesting]
      refine ScannedAs.inside (scannedAs_join (forall₂_map ?_)) braces
      intro entry inEntries
      obtain ⟨member, inMembers, rfl⟩ := List.mem_map.mp inEntries
      refine ScannedAs.entry ((scannedAs_str member.1).weaken (Nat.zero_le _)) ?_
      exact (each member inMembers).weaken (Value.nesting_le_of_mem_entries inEntries)

/-! ### Surface -/

/-- A text that begins with a token, can be shown and has no blanks around it. -/
structure Surface (text : Text) : Prop where
  begins : BeginsToken text
  shown : ∀ c ∈ text, Text.isPrintable c = true
  firm : Text.Firm text

theorem shown_join {pieces : List Text}
    (each : ∀ piece ∈ pieces, ∀ c ∈ piece, Text.isPrintable c = true) :
    ∀ c ∈ Text.join [',', ' '] pieces, Text.isPrintable c = true := by
  induction pieces with
  | nil => simp
  | cons first rest ih =>
      rw [List.forall_mem_cons] at each
      cases rest with
      | nil => exact each.1
      | cons second others =>
          rw [Text.join_cons _ _ (by simp), List.forall_mem_append, List.forall_mem_append]
          exact ⟨⟨each.1, List.all_eq_true.mp (by decide)⟩, ih each.2⟩

def isVisible (c : Char) : Bool := Text.isPrintable c && !Text.isBlank c

theorem isVisible_iff {c : Char} :
    isVisible c = true ↔ Text.isPrintable c = true ∧ Text.isBlank c = false := by
  rw [isVisible, Bool.and_eq_true, Bool.not_eq_true']

theorem surface_inside {opening closing : Char} {inside : Text}
    (shown : ∀ c ∈ inside, Text.isPrintable c = true)
    (ordinary : opening ∉ ['\n', '#', '\\', ' ', '\t', '\x0c'])
    (marks : [opening, closing].all isVisible = true) :
    Surface (opening :: inside ++ [closing]) := by
  simp only [List.all_cons, List.all_nil, Bool.and_true, Bool.and_eq_true, isVisible_iff] at marks
  obtain ⟨opens, closes⟩ := marks
  refine ⟨⟨opening, _, rfl, ordinary⟩, ?_, ⟨_, _, rfl, opens.2⟩, ⟨_, _, rfl, closes.2⟩⟩
  rw [List.forall_mem_append, List.forall_mem_cons, List.forall_mem_singleton]
  exact ⟨⟨opens.1, shown⟩, closes.1⟩

theorem isBlank_of_isDigit {c : Char} (digit : Text.isDigit c = true) : Text.isBlank c = false := by
  simp only [Text.isDigit, Bool.and_eq_true, decide_eq_true_eq] at digit
  have lower : 48 ≤ c.toNat := digit.1
  have upper : c.toNat ≤ 57 := digit.2
  simp [Text.isBlank]
  omega

theorem surface_of_visible {text : Text} (begins : BeginsToken text)
    (visible : text.all isVisible = true) : Surface text := by
  simp only [List.all_eq_true, isVisible_iff] at visible
  have nonempty : text ≠ [] := List.ne_nil_of_length_pos begins.length_pos
  exact ⟨begins, fun c member => (visible c member).1,
    Text.firm_of_visible nonempty fun c member => (visible c member).2⟩

theorem surface_ofInt (n : Int) : Surface (Text.ofInt n) := by
  have digits (n : Nat) : (digitsOf 10 n).all isVisible = true := by
    rw [List.all_eq_true]
    intro c member
    have digit : Text.isDigitOf 10 c = true :=
      Text.isDigitOf_of_mem_digitsOf (by decide) (by decide) member
    rw [isVisible_iff]
    exact ⟨Text.isPrintable_of_isDigitOf digit, isBlank_of_isDigit (Text.isDigitOf_ten c ▸ digit)⟩
  have visible : (Text.ofInt n).all isVisible = true := by
    cases n with
    | ofNat n => exact digits n
    | negSucc n =>
        rw [Text.ofInt, List.all_cons, digits (n + 1)]
        decide
  have begins : BeginsToken (Text.ofInt n) := by
    cases n with
    | ofNat n => exact beginsToken_digitsOf n
    | negSucc n => exact ⟨'-', _, rfl, by decide⟩
  exact surface_of_visible begins visible

theorem surface_quote (text : Text) : Surface (Text.quote text) where
  begins := beginsToken_quote text
  shown := fun _ member => Text.isPrintable_of_mem_quote member
  firm := by
    have visible : Text.isBlank (Text.quoteMark text) = false := by
      rcases Text.quoteMark_eq text with mark | mark
      · rw [mark]
        decide
      · rw [mark]
        decide
    rw [Text.quote_eq]
    exact ⟨⟨_, _, rfl, visible⟩, ⟨_, _, rfl, visible⟩⟩

theorem surface_write {value : Value} (plain : Value.Plain true value) : Surface (write value) := by
  induction plain with
  | null => exact surface_of_visible ⟨_, _, rfl, by decide⟩ (by decide)
  | bool flag =>
      cases flag with
      | false => exact surface_of_visible ⟨_, _, rfl, by decide⟩ (by decide)
      | true => exact surface_of_visible ⟨_, _, rfl, by decide⟩ (by decide)
  | int n _ => exact surface_ofInt n
  | str text => exact surface_quote text
  | list _ each =>
      rw [write_list]
      refine surface_inside (shown_join ?_) (by decide) (by decide)
      rw [List.forall_mem_map]
      exact fun item member => (each item member).shown
  | @tuple items _ _ each =>
      rw [write_tuple]
      refine surface_inside ?_ (by decide) (by decide)
      rw [List.forall_mem_append]
      refine ⟨shown_join ?_, ?_⟩
      · rw [List.forall_mem_map]
        exact fun item member => (each item member).shown
      · split
        · exact List.all_eq_true.mp (by decide)
        · simp
  | dict _ _ each =>
      rw [write_dict]
      refine surface_inside (shown_join ?_) (by decide) (by decide)
      rw [List.forall_mem_map, List.forall_mem_map]
      intro member inMembers
      rw [writeEntry, List.forall_mem_append, List.forall_mem_cons, List.forall_mem_cons]
      exact ⟨(surface_quote member.1).shown, by decide, by decide, (each member inMembers).shown⟩

theorem scan_write {value : Value} (plain : Value.Plain true value)
    (shallow : value.nesting ≤ Token.bracketLimit) :
    Token.scan (write value) = some (tokensOf value) := by
  have scans := scannedAs_write plain (by simpa using shallow) .end (Token.scans_nil 0)
  rw [List.append_nil, List.append_nil] at scans
  have surface := surface_write plain
  have noReturn : '\r' ∉ write value := by
    intro member
    exact absurd (surface.shown _ member) (by decide)
  exact Token.scan_of_scans surface.begins noReturn scans

end CommentSchema.Literal
