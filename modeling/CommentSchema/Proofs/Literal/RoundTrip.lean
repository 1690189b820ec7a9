import CommentSchema.Proofs.Json.Written
import CommentSchema.Proofs.Literal.Parsed

/-! Plain values read back from both of their notations.  JSON comes first, so a literal that is
JSON by accident has to mean the same there; every other literal is refused as JSON, though not
for the number of its digits, and is then read as an expression. -/

namespace CommentSchema.Literal

theorem read_of_json [Dialect] {text : Text} {value : Value}
    (found : Json.read {} text = .ok value) :
    read text = .ok value := by
  rw [read, found]

theorem read_of_expression [Dialect] {text : Text} {value : Value} {failure : Json.Failure}
    (refused : Json.read {} text = .error failure)
    (noCount : ∀ count, failure ≠ .tooManyDigits count)
    (found : readExpression text = .ok value) : read text = .ok value := by
  rw [read, refused, found]
  cases failure with
  | tooManyDigits count => exact absurd rfl (noCount count)
  | _ => rfl

/-- A plain value is read back from the literal it is written as and, if it holds no tuple, from
its JSON.  A literal that is JSON as well denotes the same value there. -/
theorem read_both_notations [Dialect] {value : Value} (plain : Value.Plain true value)
    (shallow : value.nesting ≤ ({} : Json.Limits).nesting) :
    (value.nesting ≤ Token.bracketLimit → read (write value) = .ok value) ∧
      (∀ found, Json.read {} (write value) = .ok found → found = value) ∧
      (Value.Plain false value → ∀ ascii, read (Json.write ascii value) = .ok value) := by
  have asJson := style_write.read plain shallow
  refine ⟨?_, ?_, ?_⟩
  · intro shallower
    rcases asJson with found | ⟨-, failure, refused, noCount⟩
    · exact read_of_json found
    · exact read_of_expression refused noCount (readExpression_write plain shallower)
  · intro found same
    rcases asJson with whole | ⟨-, failure, refused, -⟩
    · rw [whole] at same
      exact (Except.ok.inj same).symm
    · rw [refused] at same
      cases same
  · intro untupled ascii
    exact read_of_json (Json.read_write untupled shallow ascii)

/-- A name and a text that need different marks, with escapes and a negative number. -/
def quotedNames : Value :=
  .dict [(.str "it's".toList, .list [.str "say \"it's\"\\\n\u00ff".toList, .int (-7), .null])]

theorem plain_quotedNames (tuples : Bool) : Value.Plain tuples quotedNames := by
  have content : Value.Plain tuples
      (.list [.str "say \"it's\"\\\n\u00ff".toList, .int (-7), .null]) := by
    refine .list ?_
    simp only [List.forall_mem_cons, List.not_mem_nil, false_implies, implies_true, and_true]
    exact ⟨.str _, .int _ (by decide), .null⟩
  exact .singleton content

theorem read_both_notations_quotedNames :
    (Value.Plain true quotedNames ∧ quotedNames.nesting ≤ ({} : Json.Limits).nesting) ∧
      read (write quotedNames) = .ok quotedNames ∧
      (∀ found, Json.read {} (write quotedNames) = .ok found → found = quotedNames) ∧
      ∀ ascii, read (Json.write ascii quotedNames) = .ok quotedNames := by
  have shallow : quotedNames.nesting ≤ ({} : Json.Limits).nesting := by decide
  obtain ⟨literal, both, json⟩ := read_both_notations (plain_quotedNames true) shallow
  exact ⟨⟨plain_quotedNames true, shallow⟩, literal (by decide), both,
    json (plain_quotedNames false)⟩

end CommentSchema.Literal
