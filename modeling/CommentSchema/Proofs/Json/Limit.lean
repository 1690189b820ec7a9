import CommentSchema.Proofs.Json.Steps
import CommentSchema.Proofs.Json.Text

/-! The one failure of the JSON reader that is no fault of the text: a whole number with more
digits than are allowed.  Such a number is met where everything before it has been read. -/

namespace CommentSchema.Json

open Error (bind_eq_error map_eq_error)

variable {limits : Limits} {depth : Nat} {text rest : Text}

theorem readItems_eq_tooMany {count : Nat} :
    readItems limits depth text = .error (.tooManyDigits count) ↔
      readValue limits depth text = .error (.tooManyDigits count) ∨
        ∃ first rest after, readValue limits depth text = .ok (first, rest) ∧
          skipSpace rest = ',' :: after ∧
          readItems limits depth (skipSpace after) = .error (.tooManyDigits count) := by
  rw [readItems, items, value_eq_readValue (by omega), bind_eq_error]
  refine or_congr Iff.rfl ⟨?_, ?_⟩
  · rintro ⟨⟨first, rest⟩, readFirst, failed⟩
    dsimp only at failed
    split at failed
    · cases failed
    · next after comma =>
        have shorter := length_lt_of_comma readFirst comma
        rw [items_eq_readItems (by omega)] at failed
        rcases bind_eq_error.mp failed with failed | ⟨_, -, failed⟩
        · exact ⟨first, rest, after, readFirst, comma, failed⟩
        · cases failed
    · cases failed
  · rintro ⟨first, rest, after, readFirst, comma, failed⟩
    have shorter := length_lt_of_comma readFirst comma
    refine ⟨(first, rest), readFirst, ?_⟩
    simp only [comma]
    rw [items_eq_readItems (by omega), failed]
    rfl

theorem stringCodes_ne_tooMany {opening : Text} {count : Nat} :
    stringCodes opening text ≠ .error (.tooManyDigits count) := by
  have later {code : Nat} {outcome : Outcome (List Nat)}
      (fine : outcome ≠ .error (.tooManyDigits count)) :
      prepend code outcome ≠ .error (.tooManyDigits count) := by
    cases outcome with
    | ok found =>
        intro same
        cases same
    | error failure =>
        rintro same
        cases same
        exact fine rfl
  fun_induction stringCodes opening text
  case case5 ih | case8 ih | case11 ih => exact later ih
  all_goals
    intro same
    cases same

theorem string_ne_tooMany {opening : Text} {count : Nat} :
    string opening text ≠ .error (.tooManyDigits count) :=
  fun failed => stringCodes_ne_tooMany (map_eq_error.mp failed)

theorem readMembers_ne_tooMany {count : Nat} (bare : ∀ quoted, text ≠ '\x22' :: quoted) :
    readMembers limits depth text ≠ .error (.tooManyDigits count) := by
  unfold readMembers members
  split
  · next quoted => exact absurd rfl (bare quoted)
  · intro same
    cases same

theorem readMembers_eq_tooMany {quoted : Text} {count : Nat} :
    readMembers limits depth ('\x22' :: quoted) = .error (.tooManyDigits count) ↔
      ∃ name rest after, string ('\x22' :: quoted) quoted = .ok (name, rest) ∧
        skipSpace rest = ':' :: after ∧
        (readValue limits depth (skipSpace after) = .error (.tooManyDigits count) ∨
          ∃ content rest tail, readValue limits depth (skipSpace after) = .ok (content, rest) ∧
            skipSpace rest = ',' :: tail ∧
            readMembers limits depth (skipSpace tail) = .error (.tooManyDigits count)) := by
  rw [readMembers, members, bind_eq_error, or_iff_right string_ne_tooMany, List.length_cons]
  constructor
  · rintro ⟨⟨name, rest⟩, readName, failed⟩
    dsimp only at failed
    split at failed
    · next after colon =>
        have shorter := length_lt_of_colon readName colon
        refine ⟨name, rest, after, readName, colon, ?_⟩
        rw [value_eq_readValue (by omega)] at failed
        refine (bind_eq_error.mp failed).imp_right ?_
        rintro ⟨⟨content, rest⟩, readContent, failed⟩
        dsimp only at failed
        split at failed
        · cases failed
        · next tail comma =>
            have further := length_lt_of_comma readContent comma
            rw [members_eq_readMembers (by omega)] at failed
            rcases bind_eq_error.mp failed with failed | ⟨_, -, failed⟩
            · exact ⟨content, rest, tail, readContent, comma, failed⟩
            · cases failed
        · cases failed
    · cases failed
  · rintro ⟨name, rest, after, readName, colon, failed⟩
    have shorter := length_lt_of_colon readName colon
    refine ⟨(name, rest), readName, ?_⟩
    simp only [colon]
    rw [value_eq_readValue (by omega), bind_eq_error]
    refine failed.imp_right ?_
    rintro ⟨content, rest, tail, readContent, comma, failed⟩
    have further := length_lt_of_comma readContent comma
    refine ⟨(content, rest), readContent, ?_⟩
    simp only [comma]
    rw [members_eq_readMembers (by omega), failed]
    rfl

/-! ### Numbers with too many digits -/

/-- The text begins with a whole number of so many digits, and these are too many. -/
def IsOverlong (limits : Limits) (count : Nat) (text : Text) : Prop :=
  ∃ numeral rest, numeral? text = some (numeral, rest) ∧ numeral.fraction = none ∧
    numeral.exponent = none ∧ numeral.whole.length = count ∧ limits.digits < count

theorem numeralValue_eq_tooMany {numeral : Numeral} {count : Nat} :
    numeral.value limits = .error (.tooManyDigits count) ↔ numeral.fraction = none ∧
      numeral.exponent = none ∧ numeral.whole.length = count ∧ limits.digits < count := by
  unfold Numeral.value
  split
  · next noFraction noExponent =>
      rw [noFraction, noExponent]
      split
      · next many =>
          simp only [Except.error.injEq, Failure.tooManyDigits.injEq, true_and]
          constructor
          · rintro rfl
            exact ⟨rfl, many⟩
          · exact fun same => same.1
      · next few =>
          simp only [reduceCtorEq, true_and, false_iff, not_and]
          rintro rfl
          exact few
  · next other =>
      simp only [reduceCtorEq, false_iff]
      rintro ⟨noFraction, noExponent, -⟩
      exact other noFraction noExponent

theorem atom_eq_tooMany {count : Nat} :
    atom limits text = .error (.tooManyDigits count) ↔ IsOverlong limits count text := by
  unfold atom IsOverlong
  split
  · next word found =>
      simp only [reduceCtorEq, false_iff]
      rintro ⟨numeral, rest, read, -⟩
      rw [noWord_of_numeral? read] at found
      cases found
  · split
    · next numeral rest read =>
        simp only [read, map_eq_error, numeralValue_eq_tooMany, Option.some.injEq, Prod.mk.injEq]
        constructor
        · exact fun many => ⟨numeral, rest, ⟨rfl, rfl⟩, many⟩
        · rintro ⟨_, _, ⟨rfl, rfl⟩, many⟩
          exact many
    · next none =>
        simp [fail, none]

theorem isOverlong_ofInt {n : Int} (many : limits.digits < (Text.digitsOf 10 n.natAbs).length) :
    IsOverlong limits (Text.digitsOf 10 n.natAbs).length (Text.ofInt n) := by
  have read := numeral?_ofInt n Text.Closed.end
  rw [List.append_nil] at read
  exact ⟨wholeNumeral n, [], read, rfl, rfl, rfl, many⟩

theorem IsOverlong.skipSpace {count : Nat} (overlong : IsOverlong limits count text) :
    skipSpace text = text := by
  obtain ⟨numeral, rest, read, -⟩ := overlong
  obtain ⟨c, tail, digit, rfl | rfl⟩ := digit_of_numeral? read
  · refine List.dropWhile_cons_of_neg fun space => ?_
    simp only [isSpace, Bool.or_eq_true, beq_iff_eq] at space
    rcases space with ((rfl | rfl) | rfl) | rfl
    all_goals cases digit
  · rfl

/-- What is being read: a value, or what is left of a list or of a dictionary. -/
inductive Part where
  | value
  | items
  | members

/-- Reading meets a whole number of so many digits, which are too many.  Everything before it is
JSON and has been read. -/
inductive Exceeds (limits : Limits) (count : Nat) : Part → Nat → Text → Prop where
  | number {depth : Nat} {text : Text} (overlong : IsOverlong limits count text) :
      Exceeds limits count .value depth text
  | list {depth : Nat} {body : Text} (more : ∀ after, skipSpace body ≠ ']' :: after)
      (inside : Exceeds limits count .items depth (skipSpace body)) :
      Exceeds limits count .value (depth + 1) ('[' :: body)
  | dict {depth : Nat} {body : Text} (more : ∀ after, skipSpace body ≠ '\x7d' :: after)
      (inside : Exceeds limits count .members depth (skipSpace body)) :
      Exceeds limits count .value (depth + 1) ('\x7b' :: body)
  | first {depth : Nat} {text : Text} (inside : Exceeds limits count .value depth text) :
      Exceeds limits count .items depth text
  | later {depth : Nat} {text rest after : Text} {item : Value}
      (read : readValue limits depth text = .ok (item, rest))
      (comma : skipSpace rest = ',' :: after)
      (inside : Exceeds limits count .items depth (skipSpace after)) :
      Exceeds limits count .items depth text
  | content {depth : Nat} {quoted rest after : Text} {name : List CodePoint}
      (key : string ('\x22' :: quoted) quoted = .ok (name, rest))
      (colon : skipSpace rest = ':' :: after)
      (inside : Exceeds limits count .value depth (skipSpace after)) :
      Exceeds limits count .members depth ('\x22' :: quoted)
  | member {depth : Nat} {quoted afterKey after rest tail : Text} {name : List CodePoint}
      {content : Value}
      (key : string ('\x22' :: quoted) quoted = .ok (name, afterKey))
      (colon : skipSpace afterKey = ':' :: after)
      (read : readValue limits depth (skipSpace after) = .ok (content, rest))
      (comma : skipSpace rest = ',' :: tail)
      (inside : Exceeds limits count .members depth (skipSpace tail)) :
      Exceeds limits count .members depth ('\x22' :: quoted)

/-- The part cannot be read, for the number of digits. -/
def Part.Fails (limits : Limits) (count : Nat) (part : Part) (depth : Nat) (text : Text) : Prop :=
  match part with
  | .value => readValue limits depth text = .error (.tooManyDigits count)
  | .items => readItems limits depth text = .error (.tooManyDigits count)
  | .members => readMembers limits depth text = .error (.tooManyDigits count)

theorem readValue_of_overlong {count : Nat} (overlong : IsOverlong limits count text) :
    readValue limits depth text = .error (.tooManyDigits count) := by
  have failed := atom_eq_tooMany.mpr overlong
  obtain ⟨numeral, rest, read, -⟩ := overlong
  obtain ⟨c, tail, digit, rfl | rfl⟩ := digit_of_numeral? read
  · rw [readValue, value]
    · exact failed
    all_goals
      rintro after same
      obtain ⟨rfl, -⟩ := List.cons.inj same
      cases digit
  · rw [readValue, value]
    · exact failed
    all_goals simp

theorem fails_of_exceeds {count : Nat} {part : Part}
    (exceeds : Exceeds limits count part depth text) : part.Fails limits count depth text := by
  induction exceeds with
  | number overlong => exact readValue_of_overlong overlong
  | list more _ failed =>
      rw [Part.Fails, readValue_list more, map_eq_error]
      exact failed
  | dict more _ failed =>
      rw [Part.Fails, readValue_dict more, map_eq_error]
      exact failed
  | first _ failed => exact readItems_eq_tooMany.mpr (.inl failed)
  | later read comma _ failed =>
      exact readItems_eq_tooMany.mpr (.inr ⟨_, _, _, read, comma, failed⟩)
  | content key colon _ failed =>
      exact readMembers_eq_tooMany.mpr ⟨_, _, _, key, colon, .inl failed⟩
  | member key colon read comma _ failed =>
      exact readMembers_eq_tooMany.mpr
        ⟨_, _, _, key, colon, .inr ⟨_, _, _, read, comma, failed⟩⟩

/-- What the failure of a value comes from, where this is known of every shorter text. -/
theorem exceeds_of_value {count : Nat}
    (shorter : ∀ {part depth body}, List.length body < text.length →
      Part.Fails limits count part depth body → Exceeds limits count part depth body)
    (failed : readValue limits depth text = .error (.tooManyDigits count)) :
    Exceeds limits count .value depth text := by
  unfold readValue value at failed
  split at failed
  · exact absurd (map_eq_error.mp failed) string_ne_tooMany
  · next body =>
      have skipped := Nat.lt_succ_of_le (skipSpace_length_le body)
      split at failed
      · cases failed
      · split at failed
        · cases failed
        · next more =>
            rw [map_eq_error, items_eq_readItems (by rw [List.length_cons]; omega)] at failed
            exact .list more (shorter skipped failed)
  · next body =>
      have skipped := Nat.lt_succ_of_le (skipSpace_length_le body)
      split at failed
      · cases failed
      · split at failed
        · cases failed
        · next more =>
            rw [map_eq_error, members_eq_readMembers (by rw [List.length_cons]; omega)] at failed
            exact .dict more (shorter skipped failed)
  · exact .number (atom_eq_tooMany.mp failed)

theorem exceeds_of_fails {count : Nat} {part : Part}
    (failed : part.Fails limits count depth text) : Exceeds limits count part depth text := by
  -- The rest of a list begins with a value of the same length, so values come first.
  induction size : text.length using Nat.strongRecOn generalizing part depth text with
  | ind n shorter =>
      subst size
      have inValue {depth : Nat} {text' : Text} (within : text'.length ≤ text.length)
          (failed : readValue limits depth text' = .error (.tooManyDigits count)) :
          Exceeds limits count .value depth text' :=
        exceeds_of_value
          (fun less failed => shorter _ (Nat.lt_of_lt_of_le less within) failed rfl) failed
      cases part with
      | value => exact inValue (Nat.le_refl _) failed
      | items =>
          rcases readItems_eq_tooMany.mp failed with
            failed | ⟨first, rest, after, read, comma, failed⟩
          · exact .first (inValue (Nat.le_refl _) failed)
          · have inside : Exceeds limits count .items depth (skipSpace after) :=
              shorter _ (length_lt_of_comma read comma) failed rfl
            exact .later read comma inside
      | members =>
          by_cases opened : ∃ quoted, text = '\x22' :: quoted
          · obtain ⟨quoted, rfl⟩ := opened
            obtain ⟨name, rest, after, key, colon, failed⟩ := readMembers_eq_tooMany.mp failed
            have behind : (skipSpace after).length < ('\x22' :: quoted).length :=
              Nat.lt_succ_of_lt (length_lt_of_colon key colon)
            rcases failed with failed | ⟨content, rest, tail, read, comma, failed⟩
            · exact .content key colon (inValue (Nat.le_of_lt behind) failed)
            · have inside : Exceeds limits count .members depth (skipSpace tail) :=
                shorter _ (Nat.lt_trans (length_lt_of_comma read comma) behind) failed rfl
              exact .member key colon read comma inside
          · exact absurd failed
              (readMembers_ne_tooMany fun quoted same => opened ⟨quoted, same⟩)

theorem exceeds_iff {count : Nat} {part : Part} :
    Exceeds limits count part depth text ↔ part.Fails limits count depth text :=
  ⟨fails_of_exceeds, exceeds_of_fails⟩

/-- A text behind a byte order mark is not read, and would begin with no value. -/
theorem not_exceeds_mark {count : Nat} (after : Text) :
    ¬ Exceeds limits count .value depth ('\ufeff' :: after) := by
  intro exceeds
  cases exceeds with
  | number overlong =>
      obtain ⟨numeral, rest, read, -⟩ := overlong
      obtain ⟨c, tail, digit, starts | starts⟩ := digit_of_numeral? read
      · obtain ⟨rfl, -⟩ := List.cons.inj starts
        cases digit
      · cases starts

theorem read_eq_tooMany {count : Nat} :
    read limits text = .error (.tooManyDigits count) ↔
      Exceeds limits count .value limits.nesting (skipSpace text) := by
  unfold read
  split
  · next after =>
      have noSpace : skipSpace ('\ufeff' :: after) = '\ufeff' :: after := rfl
      simp [noSpace, not_exceeds_mark]
  · have skipped := skipSpace_length_le text
    rw [value_eq_readValue (by omega), bind_eq_error, exceeds_iff, Part.Fails, or_iff_left]
    rintro ⟨⟨found, rest⟩, -, failed⟩
    dsimp only at failed
    split at failed <;> cases failed

end CommentSchema.Json
