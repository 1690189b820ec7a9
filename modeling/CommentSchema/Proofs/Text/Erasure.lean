import CommentSchema.Proofs.Text.Occurrence

/-! What erasing a word leaves of a text, and what the lines of a text hold.  Where a mark
occurs after the erasure, it occurred before or the erasure has joined its pieces; where it
occurs in a text that is put together with blanks, it occurs in one of the pieces. -/

namespace CommentSchema.Text

@[elab_as_elim]
theorem eraseInduction {motive : Text → Prop} {word : Text} (nonempty : word ≠ []) (text : Text)
    (nil : motive [])
    (erased : ∀ rest, motive rest → motive (word ++ rest))
    (kept : ∀ c rest, ¬ word <+: c :: rest → motive rest → motive (c :: rest)) : motive text := by
  induction size : text.length using Nat.strongRecOn generalizing text with
  | ind n shorter =>
      subst size
      cases text with
      | nil => exact nil
      | cons c rest =>
          by_cases found : word <+: c :: rest
          · obtain ⟨after, same⟩ := found
            rw [← same]
            have longer := List.length_pos_of_ne_nil nonempty
            refine erased after (shorter after.length ?_ after rfl)
            rw [← same, List.length_append]
            omega
          · exact kept c rest found (shorter rest.length (by simp) rest rfl)

theorem mem_of_mem_erase {word text : Text} {c : Char} (nonempty : word ≠ [])
    (member : c ∈ erase word text) : c ∈ text := by
  induction text using eraseInduction nonempty with
  | nil => exact member
  | erased rest ih =>
      rw [erase_append nonempty] at member
      exact List.mem_append_right _ (ih member)
  | kept d rest absent ih =>
      rw [erase_cons_of_absent absent, List.mem_cons] at member
      exact List.mem_cons.mpr (member.imp_right ih)

/-- A word is erased on the two sides of a character that it does not have. -/
theorem erase_append_cons {word : Text} {c : Char} (nonempty : word ≠ []) (absent : c ∉ word)
    (front back : Text) :
    erase word (front ++ c :: back) = erase word front ++ c :: erase word back := by
  induction front using eraseInduction nonempty with
  | nil =>
      refine erase_cons_of_absent fun begins => nonempty ?_
      exact List.prefix_nil.mp ((prefix_append_cons_iff absent [] back).mp begins)
  | erased rest ih =>
      rw [List.append_assoc, erase_append nonempty, erase_append nonempty, ih]
  | kept d rest fresh ih =>
      have still : ¬ word <+: d :: (rest ++ c :: back) := fun begins =>
        fresh ((prefix_append_cons_iff absent (d :: rest) back).mp begins)
      rw [List.cons_append, erase_cons_of_absent still, erase_cons_of_absent fresh, ih,
        List.cons_append]

/-- Erasing the word puts the mark together from what stands on the two sides of it. -/
def Joins (word mark text : Text) : Prop :=
  ∃ front beginning ending rest, text = front ++ (beginning ++ (word ++ rest)) ∧
    mark = beginning ++ ending ∧ beginning ≠ [] ∧ ending ≠ [] ∧ ending <+: erase word rest

theorem Joins.infix_text {word mark text : Text} (joins : Joins word mark text) :
    word <:+: text := by
  obtain ⟨front, beginning, ending, rest, rfl, -⟩ := joins
  exact ⟨front ++ beginning, rest, by simp⟩

theorem Joins.append {word mark text : Text} (front : Text) (joins : Joins word mark text) :
    Joins word mark (front ++ text) := by
  obtain ⟨before, beginning, ending, rest, rfl, joined⟩ := joins
  exact ⟨front ++ before, beginning, ending, rest, by simp, joined⟩

/-- What an erasure begins with began there before, or an erased word cuts it. -/
theorem prefix_erase {word piece text : Text} (nonempty : word ≠ [])
    (found : piece <+: erase word text) :
    piece <+: text ∨
      ∃ beginning ending rest, text = beginning ++ (word ++ rest) ∧ piece = beginning ++ ending ∧
        ending ≠ [] ∧ ending <+: erase word rest := by
  induction text using eraseInduction nonempty generalizing piece with
  | nil => exact .inl found
  | erased rest ih =>
      rw [erase_append nonempty] at found
      cases piece with
      | nil => exact .inl List.nil_prefix
      | cons c piece => exact .inr ⟨[], c :: piece, rest, rfl, rfl, by simp, found⟩
  | kept c rest absent ih =>
      cases piece with
      | nil => exact .inl List.nil_prefix
      | cons d piece =>
          rw [erase_cons_of_absent absent, List.cons_prefix_cons] at found
          obtain ⟨rfl, found⟩ := found
          rcases ih found with inside | ⟨beginning, ending, after, rfl, rfl, cut⟩
          · exact .inl (List.cons_prefix_cons.mpr ⟨rfl, inside⟩)
          · exact .inr ⟨d :: beginning, ending, after, rfl, rfl, cut⟩

/-- A mark in what an erasure leaves was there before, at a place where the erased word was not,
or the erasure has joined it. -/
theorem infix_erase {word mark text : Text} (nonempty : word ≠ []) (marked : mark ≠ [])
    (found : mark <:+: erase word text) :
    (∃ before after, text = before ++ (mark ++ after) ∧ ¬ word <+: mark ++ after) ∨
      Joins word mark text := by
  induction text using eraseInduction nonempty with
  | nil => exact absurd (List.infix_nil.mp found) marked
  | erased rest ih =>
      rw [erase_append nonempty] at found
      rcases ih found with ⟨before, after, rfl, absent⟩ | joins
      · exact .inl ⟨word ++ before, after, by simp, absent⟩
      · exact .inr (joins.append word)
  | kept c rest absent ih =>
      have erasure := erase_cons_of_absent absent
      rw [erasure, List.infix_cons_iff] at found
      rcases found with found | found
      · rw [← erasure] at found
        rcases prefix_erase nonempty found with
          ⟨after, same⟩ | ⟨beginning, ending, after, same, cut⟩
        · exact .inl ⟨[], after, same.symm, same ▸ absent⟩
        · refine .inr ⟨[], beginning, ending, after, same, cut.1, ?_, cut.2⟩
          intro empty
          rw [same, empty] at absent
          exact absent (List.prefix_append word after)
      · rcases ih found with ⟨before, after, rfl, fresh⟩ | joins
        · exact .inl ⟨c :: before, after, rfl, fresh⟩
        · exact .inr (joins.append [c])

theorem not_mem_of_mem_split {separator : Char} {piece text : Text}
    (member : piece ∈ split separator text) : separator ∉ piece := by
  induction text generalizing piece with
  | nil =>
      rw [split_nil, List.mem_singleton] at member
      rw [member]
      exact List.not_mem_nil
  | cons c rest ih =>
      rw [split] at member
      split at member
      · rcases List.mem_cons.mp member with rfl | member
        · exact List.not_mem_nil
        · exact ih member
      · next different =>
          split at member
          · next none => exact absurd none (split_ne_nil separator rest)
          · next first others pieces =>
              rw [pieces] at ih
              rcases List.mem_cons.mp member with rfl | member
              · rw [List.mem_cons, not_or]
                exact ⟨Ne.symm different, ih List.mem_cons_self⟩
              · exact ih (List.mem_cons_of_mem _ member)

theorem not_mem_join {separator : Text} {pieces : List Text} {c : Char} (outside : c ∉ separator)
    (absent : ∀ piece ∈ pieces, c ∉ piece) : c ∉ join separator pieces := by
  induction pieces with
  | nil => exact List.not_mem_nil
  | cons first rest ih =>
      rw [List.forall_mem_cons] at absent
      cases rest with
      | nil => exact absent.1
      | cons second others =>
          rw [join_cons _ _ (by simp)]
          simp only [List.mem_append, not_or]
          exact ⟨⟨absent.1, outside⟩, ih absent.2⟩

theorem not_infix_join {separator word : Text} {pieces : List Text} (nonempty : word ≠ [])
    (keeps : keepsOut word separator) (absent : ∀ piece ∈ pieces, ¬ word <:+: piece) :
    ¬ word <:+: join separator pieces := by
  induction pieces with
  | nil => simpa using nonempty
  | cons first rest ih =>
      rw [List.forall_mem_cons] at absent
      cases rest with
      | nil => exact absent.1
      | cons second others =>
          rw [join_cons _ _ (by simp), List.append_assoc]
          exact not_infix_of_keepsOut keeps absent.1 (ih absent.2)

end CommentSchema.Text
