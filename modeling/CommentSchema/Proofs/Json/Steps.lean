import CommentSchema.Error
import CommentSchema.Json.Reader
import Mathlib.Data.List.Infix

/-! What every reader of JSON leaves is no longer than its text, and the recursion takes fewer
steps than it is given.  So a value, the rest of a list and the rest of a dictionary can be read
without any mention of steps. -/

namespace CommentSchema.Json

open Error (bind_eq_ok map_eq_ok)

variable {limits : Limits} {steps depth : Nat} {text rest : Text}

/-! ### What is left of a text -/

theorem skipSpace_length_le (text : Text) : (skipSpace text).length ≤ text.length :=
  (List.dropWhile_suffix _).length_le

theorem length_lt_of_skipSpace {rest tail : Text} {c : Char}
    (found : skipSpace rest = c :: tail) : tail.length < rest.length := by
  have skipped := skipSpace_length_le rest
  rw [found, List.length_cons] at skipped
  exact skipped

theorem length_le_of_prepend {code bound : Nat} {outcome : Outcome (List Nat)} {codes : List Nat}
    (read : prepend code outcome = .ok (codes, rest))
    (shorter : ∀ others, outcome = .ok (others, rest) → rest.length ≤ bound) :
    rest.length ≤ bound := by
  cases outcome with
  | ok found =>
      cases read
      exact shorter _ rfl
  | error failure => cases read

theorem length_le_of_stringCodes {opening : Text} {codes : List Nat}
    (read : stringCodes opening text = .ok (codes, rest)) : rest.length ≤ text.length := by
  fun_induction stringCodes opening text generalizing codes
  case case2 =>
    cases read
    exact Nat.le_succ _
  case case5 ih | case8 ih | case11 ih =>
    refine length_le_of_prepend read fun others same => ?_
    have shorter := ih same
    simp only [List.length_cons]
    omega
  all_goals cases read

theorem length_le_of_string {opening : Text} {content : List CodePoint}
    (read : string opening text = .ok (content, rest)) : rest.length ≤ text.length := by
  obtain ⟨⟨codes, after⟩, readCodes, same⟩ := map_eq_ok.mp read
  cases same
  exact length_le_of_stringCodes readCodes

theorem spanDecimal_length_le (text : Text) : (spanDecimal text).2.length ≤ text.length := by
  have whole := congrArg List.length (Text.spanDigits_append 10 text.length text)
  rw [List.length_append] at whole
  rw [spanDecimal]
  omega

theorem fraction_length_le (text : Text) : (fraction text).2.length ≤ text.length := by
  unfold fraction
  split
  · next rest =>
      have shorter := spanDecimal_length_le rest
      split
      · exact Nat.le_refl _
      · next same =>
          rw [same] at shorter
          exact Nat.le_succ_of_le shorter
  · exact Nat.le_refl _

theorem exponent_length_le (text : Text) : (exponent text).2.length ≤ text.length := by
  unfold exponent
  split
  · next c rest =>
      split
      · split
        next negative body sign =>
          have within : body.length ≤ rest.length := by
            split at sign
            all_goals
              cases sign
              simp
          have shorter := spanDecimal_length_le body
          split
          · exact Nat.le_refl _
          · next same =>
              rw [same] at shorter
              exact Nat.le_succ_of_le (Nat.le_trans shorter within)
      · exact Nat.le_refl _
  · exact Nat.le_refl _

theorem length_le_of_whole? {digits : Text} (read : whole? text = some (digits, rest)) :
    rest.length ≤ text.length := by
  unfold whole? at read
  split at read
  · cases read
    exact Nat.le_succ _
  · next c tail _ =>
      split at read
      · have shorter := spanDecimal_length_le (c :: tail)
        rwa [Option.some.inj read] at shorter
      · cases read
  · cases read

theorem length_le_of_numeral? {numeral : Numeral} (read : numeral? text = some (numeral, rest)) :
    rest.length ≤ text.length := by
  unfold numeral? at read
  obtain ⟨⟨digits, after⟩, readWhole, same⟩ := Option.map_eq_some_iff.mp read
  have afterWhole : after.length ≤ text.length := by
    have shorter := length_le_of_whole? readWhole
    split at shorter
    · exact Nat.le_succ_of_le shorter
    · exact shorter
  have afterFraction := fraction_length_le after
  have afterExponent := exponent_length_le (fraction after).2
  cases same
  exact Nat.le_trans afterExponent (Nat.le_trans afterFraction afterWhole)

theorem length_le_of_atom {found : Value} (read : atom limits text = .ok (found, rest)) :
    rest.length ≤ text.length := by
  unfold atom at read
  split at read
  · next entry same =>
      cases read
      obtain ⟨word, -, same⟩ := List.exists_of_findSome?_eq_some same
      obtain ⟨after, begins, same⟩ := Option.map_eq_some_iff.mp same
      cases same
      rw [← List.isPrefixOf?_eq_some_iff_append_eq.mp begins, List.length_append]
      omega
  · split at read
    · next numeral after same =>
        obtain ⟨value, -, same'⟩ := map_eq_ok.mp read
        cases same'
        exact length_le_of_numeral? same
    · cases read

/-- No reader leaves more than it was given. -/
structure Shortens (limits : Limits) (steps : Nat) : Prop where
  value : ∀ {depth text found rest}, value limits steps depth text = .ok (found, rest) →
    rest.length ≤ text.length
  items : ∀ {depth text found rest}, items limits steps depth text = .ok (found, rest) →
    rest.length ≤ text.length
  members : ∀ {depth text found rest}, members limits steps depth text = .ok (found, rest) →
    rest.length ≤ text.length

theorem value_shortens (ih : Shortens limits steps) {found : Value}
    (read : value limits (steps + 1) depth text = .ok (found, rest)) :
    rest.length ≤ text.length := by
  unfold value at read
  split at read
  · obtain ⟨⟨content, after⟩, readString, same⟩ := map_eq_ok.mp read
    cases same
    exact Nat.le_succ_of_le (length_le_of_string readString)
  · next body =>
      split at read
      · cases read
      · split at read
        · next closed =>
            cases read
            exact Nat.le_succ_of_le (Nat.le_of_lt (length_lt_of_skipSpace closed))
        · obtain ⟨⟨found, after⟩, readItems, same⟩ := map_eq_ok.mp read
          cases same
          exact Nat.le_succ_of_le (Nat.le_trans (ih.items readItems) (skipSpace_length_le body))
  · next body =>
      split at read
      · cases read
      · split at read
        · next closed =>
            cases read
            exact Nat.le_succ_of_le (Nat.le_of_lt (length_lt_of_skipSpace closed))
        · obtain ⟨⟨found, after⟩, readMembers, same⟩ := map_eq_ok.mp read
          cases same
          exact Nat.le_succ_of_le (Nat.le_trans (ih.members readMembers) (skipSpace_length_le body))
  · exact length_le_of_atom read

theorem items_shortens (ih : Shortens limits steps) {found : List Value}
    (read : items limits (steps + 1) depth text = .ok (found, rest)) :
    rest.length ≤ text.length := by
  unfold items at read
  obtain ⟨⟨first, after⟩, readFirst, read⟩ := bind_eq_ok.mp read
  have shorter := ih.value readFirst
  dsimp only at read
  split at read
  · next closed =>
      cases read
      exact Nat.le_trans (Nat.le_of_lt (length_lt_of_skipSpace closed)) shorter
  · next tail comma =>
      obtain ⟨⟨others, final⟩, readOthers, read⟩ := bind_eq_ok.mp read
      cases read
      have others := ih.items readOthers
      have skipped := skipSpace_length_le tail
      have behind := length_lt_of_skipSpace comma
      dsimp only
      omega
  · cases read

theorem members_shortens (ih : Shortens limits steps) {found : List (Value × Value)}
    (read : members limits (steps + 1) depth text = .ok (found, rest)) :
    rest.length ≤ text.length := by
  unfold members at read
  split at read
  · next quoted =>
      obtain ⟨⟨name, afterName⟩, readName, read⟩ := bind_eq_ok.mp read
      have named := length_le_of_string readName
      dsimp only at read
      split at read
      · next before colon =>
          obtain ⟨⟨content, afterContent⟩, readContent, read⟩ := bind_eq_ok.mp read
          have behindColon := length_lt_of_skipSpace colon
          have skipped := skipSpace_length_le before
          have shorter := ih.value readContent
          dsimp only at read
          split at read
          · next closed =>
              cases read
              have behind := length_lt_of_skipSpace closed
              simp only [List.length_cons]
              omega
          · next tail comma =>
              obtain ⟨⟨others, final⟩, readOthers, read⟩ := bind_eq_ok.mp read
              cases read
              have behind := length_lt_of_skipSpace comma
              have others := ih.members readOthers
              have skipped := skipSpace_length_le tail
              simp only [List.length_cons]
              omega
          · cases read
      · cases read
  · cases read

theorem shortens (limits : Limits) (steps : Nat) : Shortens limits steps := by
  induction steps with
  | zero => exact ⟨nofun, nofun, nofun⟩
  | succ steps ih => exact ⟨value_shortens ih, items_shortens ih, members_shortens ih⟩

/-! ### Steps -/

/-- With two steps for every character the outcome does not depend on the steps. -/
structure Steady (limits : Limits) (steps : Nat) : Prop where
  value : ∀ (more : Nat) {depth text}, 2 * List.length text < steps → 2 * List.length text < more →
    value limits steps depth text = value limits more depth text
  items : ∀ (more : Nat) {depth text}, 2 * List.length text + 1 < steps →
    2 * List.length text + 1 < more → items limits steps depth text = items limits more depth text
  members : ∀ (more : Nat) {depth text}, 2 * List.length text + 1 < steps →
    2 * List.length text + 1 < more →
    members limits steps depth text = members limits more depth text

variable {more : Nat}

theorem value_steady (ih : Steady limits steps) (enough : 2 * text.length < steps + 1)
    (enoughMore : 2 * text.length < more + 1) :
    value limits (steps + 1) depth text = value limits (more + 1) depth text := by
  unfold value
  split
  · rfl
  · next body =>
      have skipped := skipSpace_length_le body
      rw [List.length_cons] at enough enoughMore
      cases depth with
      | zero => rfl
      | succ depth =>
          dsimp only
          split
          · rfl
          · rw [ih.items more (by omega) (by omega)]
  · next body =>
      have skipped := skipSpace_length_le body
      rw [List.length_cons] at enough enoughMore
      cases depth with
      | zero => rfl
      | succ depth =>
          dsimp only
          split
          · rfl
          · rw [ih.members more (by omega) (by omega)]
  · rfl

theorem items_steady (ih : Steady limits steps) (enough : 2 * text.length + 1 < steps + 1)
    (enoughMore : 2 * text.length + 1 < more + 1) :
    items limits (steps + 1) depth text = items limits (more + 1) depth text := by
  rw [items, items, ih.value more (by omega) (by omega)]
  cases readFirst : value limits more depth text with
  | error failure => rfl
  | ok found =>
      obtain ⟨first, after⟩ := found
      have shorter := (shortens limits more).value readFirst
      simp only [Error.ok_bind]
      split
      · rfl
      · next tail comma =>
          have behind := length_lt_of_skipSpace comma
          have skipped := skipSpace_length_le tail
          rw [ih.items more (by omega) (by omega)]
      · rfl

theorem members_steady (ih : Steady limits steps) (enough : 2 * text.length + 1 < steps + 1)
    (enoughMore : 2 * text.length + 1 < more + 1) :
    members limits (steps + 1) depth text = members limits (more + 1) depth text := by
  unfold members
  split
  · next quoted =>
      rw [List.length_cons] at enough enoughMore
      cases readName : string ('\x22' :: quoted) quoted with
      | error failure => rfl
      | ok found =>
          obtain ⟨name, afterName⟩ := found
          have named := length_le_of_string readName
          simp only [Error.ok_bind]
          split
          · next before colon =>
              have behindColon := length_lt_of_skipSpace colon
              have skipped := skipSpace_length_le before
              rw [ih.value more (by omega) (by omega)]
              cases readContent : value limits more depth (skipSpace before) with
              | error failure => rfl
              | ok found =>
                  obtain ⟨content, afterContent⟩ := found
                  have shorter := (shortens limits more).value readContent
                  simp only [Error.ok_bind]
                  split
                  · rfl
                  · next tail comma =>
                      have behind := length_lt_of_skipSpace comma
                      have skipped := skipSpace_length_le tail
                      rw [ih.members more (by omega) (by omega)]
                  · rfl
          · rfl
  · rfl

theorem steady (limits : Limits) (steps : Nat) : Steady limits steps := by
  induction steps with
  | zero => exact ⟨nofun, nofun, nofun⟩
  | succ steps ih =>
      refine ⟨?_, ?_, ?_⟩
      · intro more depth text enough enoughMore
        obtain ⟨more, rfl⟩ : ∃ fewer, more = fewer + 1 := ⟨more - 1, by omega⟩
        exact value_steady ih enough enoughMore
      · intro more depth text enough enoughMore
        obtain ⟨more, rfl⟩ : ∃ fewer, more = fewer + 1 := ⟨more - 1, by omega⟩
        exact items_steady ih enough enoughMore
      · intro more depth text enough enoughMore
        obtain ⟨more, rfl⟩ : ∃ fewer, more = fewer + 1 := ⟨more - 1, by omega⟩
        exact members_steady ih enough enoughMore

def readValue (limits : Limits) (depth : Nat) (text : Text) : Outcome Value :=
  value limits (2 * text.length + 1) depth text

def readItems (limits : Limits) (depth : Nat) (text : Text) :
    Except Failure (List Value × Text) :=
  items limits (2 * text.length + 2) depth text

def readMembers (limits : Limits) (depth : Nat) (text : Text) :
    Except Failure (List (Value × Value) × Text) :=
  members limits (2 * text.length + 2) depth text

theorem value_eq_readValue (enough : 2 * text.length < steps) :
    value limits steps depth text = readValue limits depth text :=
  (steady limits steps).value _ enough (by omega)

theorem items_eq_readItems (enough : 2 * text.length + 1 < steps) :
    items limits steps depth text = readItems limits depth text :=
  (steady limits steps).items _ enough (by omega)

theorem members_eq_readMembers (enough : 2 * text.length + 1 < steps) :
    members limits steps depth text = readMembers limits depth text :=
  (steady limits steps).members _ enough (by omega)

/-! ### The recursion without steps -/

theorem readValue_list {body : Text} (more : ∀ after, skipSpace body ≠ ']' :: after) :
    readValue limits (depth + 1) ('[' :: body) =
      (readItems limits depth (skipSpace body)).map fun (items, rest) => (.list items, rest) := by
  have skipped := skipSpace_length_le body
  rw [readValue, value]
  split
  · next after closed => exact absurd closed (more after)
  · rw [List.length_cons, items_eq_readItems (by omega)]

theorem readValue_dict {body : Text} (more : ∀ after, skipSpace body ≠ '\x7d' :: after) :
    readValue limits (depth + 1) ('\x7b' :: body) =
      (readMembers limits depth (skipSpace body)).map fun (members, rest) =>
        (Value.ofEntries members, rest) := by
  have skipped := skipSpace_length_le body
  rw [readValue, value]
  split
  · next after closed => exact absurd closed (more after)
  · rw [List.length_cons, members_eq_readMembers (by omega)]

/-- What stands behind the comma after a value is shorter than the text. -/
theorem length_lt_of_comma {tail : Text} {item : Value}
    (read : readValue limits depth text = .ok (item, rest)) (comma : skipSpace rest = ',' :: tail) :
    (skipSpace tail).length < text.length := by
  have shorter := (shortens limits _).value read
  have behind := length_lt_of_skipSpace comma
  have skipped := skipSpace_length_le tail
  omega

/-- What stands behind the colon after a name is shorter than the text. -/
theorem length_lt_of_colon {quoted tail : Text} {name : List CodePoint}
    (key : string ('\x22' :: quoted) quoted = .ok (name, rest))
    (colon : skipSpace rest = ':' :: tail) : (skipSpace tail).length < quoted.length := by
  have named := length_le_of_string key
  have behind := length_lt_of_skipSpace colon
  have skipped := skipSpace_length_le tail
  omega

end CommentSchema.Json
