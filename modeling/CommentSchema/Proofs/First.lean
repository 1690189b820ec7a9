/-! Work on a list that stops at its first failure.  Some item is met when all before it have
passed. -/

namespace CommentSchema

/-- An item is met in the list, and all before it pass. -/
def Meets (passes isMet : α → Prop) (items : List α) : Prop :=
  ∃ before item after, items = before ++ item :: after ∧
    (∀ earlier ∈ before, passes earlier) ∧ isMet item

variable {passes isMet : α → Prop}

theorem not_meets_nil : ¬ Meets passes isMet [] := by
  intro meets
  obtain ⟨before, item, after, same, -⟩ := meets
  cases before with
  | nil => cases same
  | cons => cases same

theorem meets_cons {item : α} {rest : List α} :
    Meets passes isMet (item :: rest) ↔ isMet item ∨ passes item ∧ Meets passes isMet rest := by
  constructor
  · intro meets
    obtain ⟨before, found, after, same, earlier, met⟩ := meets
    cases before with
    | nil =>
        cases same
        exact .inl met
    | cons _ before =>
        cases same
        rw [List.forall_mem_cons] at earlier
        exact .inr ⟨earlier.1, before, found, after, rfl, earlier.2, met⟩
  · intro met
    rcases met with met | ⟨passed, before, found, after, rfl, earlier, met⟩
    · exact ⟨[], item, rest, rfl, by simp, met⟩
    · exact ⟨item :: before, found, after, rfl, List.forall_mem_cons.mpr ⟨passed, earlier⟩, met⟩

end CommentSchema
