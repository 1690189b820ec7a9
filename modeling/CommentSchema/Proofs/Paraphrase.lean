import CommentSchema.Proofs.Scan

/-! The aside behind the name.  It ends at the last asterisk of its line that a space follows, so
the verb behind an aside is found where the rest of the line has no such asterisk, and nowhere
else. -/

namespace CommentSchema.Comment

section

variable {name text aside verb rest before after : Text}

theorem toLastClosing_of_line (line : '\n' ∉ text) :
    aside?.toLastClosing text =
      (Text.splitLast? ['*', ' '] text).map fun (words, after) => (words ++ ['*', ' '], after) := by
  induction text with
  | nil => rfl
  | cons c rest ih =>
      rw [List.mem_cons, not_or] at line
      have other : (c == '\n') = false := by simpa using Ne.symm line.1
      unfold aside?.toLastClosing Text.splitLast?
      rw [ih line.2, other]
      cases Text.splitLast? ['*', ' '] rest with
      | some pieces => rfl
      | none =>
          simp only [Bool.false_eq_true, if_false, Option.map_none]
          split
          · simp [List.isPrefixOf?]
          · next unclosed =>
              rw [Text.isPrefixOf?_eq_none]
              · rfl
              · intro begins
                obtain ⟨behind, same⟩ := begins
                cases same
                exact unclosed behind rfl rfl

theorem dropVerb_append (member : verb ∈ verbs)
    (whole : verb = "is ".toList ∨ verb = "are ".toList → ¬ "the ".toList <+: rest) :
    dropVerb (verb ++ rest) = rest := by
  simp only [verbs, List.map_cons, List.map_nil, List.mem_cons, List.not_mem_nil, or_false]
    at member
  rcases member with rfl | rfl | rfl | rfl | rfl
  · simp [dropVerb, verbs, List.isPrefixOf?]
  · have apart : ['t', 'h', 'e', ' '].isPrefixOf? rest = none :=
      Text.isPrefixOf?_eq_none (whole (.inl rfl))
    simp [dropVerb, verbs, List.findSome?, List.isPrefixOf?, apart]
  · simp [dropVerb, verbs, List.findSome?, List.isPrefixOf?]
  · have apart : ['t', 'h', 'e', ' '].isPrefixOf? rest = none :=
      Text.isPrefixOf?_eq_none (whole (.inr rfl))
    simp [dropVerb, verbs, List.findSome?, List.isPrefixOf?, apart]
  · simp [dropVerb, verbs, List.findSome?, List.isPrefixOf?]

theorem aside?_of_last (line : '\n' ∉ aside ++ after) (last : ¬ ['*', ' '] <:+: after) :
    aside? ('*' :: (aside ++ (['*', ' '] ++ after))) =
      some ('*' :: (aside ++ ['*', ' ']), after) := by
  have unbroken : '\n' ∉ aside ++ (['*', ' '] ++ after) := by simpa using line
  have split : Text.splitLast? ['*', ' '] (aside ++ (['*', ' '] ++ after)) =
      some (aside, after) :=
    (Text.splitLast?_eq_some_iff (by decide)).mpr
      ⟨rfl, Text.not_infix_fixed_append (by decide) last⟩
  rw [aside?, toLastClosing_of_line unbroken, split]
  rfl

theorem removeName_of_last (named : name ≠ []) (line : '\n' ∉ aside ++ after)
    (last : ¬ ['*', ' '] <:+: after) :
    removeName name (name ++ [' ', '*'] ++ aside ++ ['*', ' '] ++ after) =
      '*' :: aside ++ ['*', ' '] ++ dropVerb after := by
  have full : name.isEmpty = false := by simpa using named
  have whole : name ++ [' ', '*'] ++ aside ++ ['*', ' '] ++ after =
      name ++ [' '] ++ '*' :: (aside ++ (['*', ' '] ++ after)) := by simp
  rw [removeName, full, whole, Text.isPrefixOf?_append]
  simp only [Bool.false_eq_true, if_false, aside?_of_last line last]
  simp

/-- A word in front of a text moves the first of the marks in it. -/
theorem append_ne_of_mark {mark : Char} {word : Text} (absent : mark ∉ word) (nonempty : word ≠ [])
    (before after other : Text) :
    word ++ (before ++ mark :: after) ≠ before ++ mark :: other := by
  intro same
  have place : ∀ behind, List.idxOf mark (before ++ mark :: behind) =
      List.idxOf mark (before ++ [mark]) := fun behind => by simp [List.idxOf_append]
  have moved := congrArg (List.idxOf mark) same
  rw [List.idxOf_append_of_notMem absent, place after, place other] at moved
  have long := List.length_pos_of_ne_nil nonempty
  omega

theorem line_of_mem_verbs (member : verb ∈ verbs) : '\n' ∉ verb := by
  have each : ∀ verb ∈ verbs, '\n' ∉ verb := by decide
  exact each verb member

theorem unmarked_of_mem_verbs (member : verb ∈ verbs) : '*' ∉ verb ∧ verb ≠ [] := by
  have each : ∀ verb ∈ verbs, '*' ∉ verb ∧ verb ≠ [] := by decide
  exact each verb member

theorem removeName_of_closed_aside (named : name ≠ []) (member : verb ∈ verbs)
    (line : '\n' ∉ aside ++ rest)
    (whole : verb = "is ".toList ∨ verb = "are ".toList → ¬ "the ".toList <+: rest)
    (last : ¬ ['*', ' '] <:+: rest) :
    removeName name (name ++ [' ', '*'] ++ aside ++ ['*', ' '] ++ verb ++ rest) =
      '*' :: aside ++ ['*', ' '] ++ rest := by
  have unbroken : '\n' ∉ aside ++ (verb ++ rest) := by
    simp only [List.mem_append, not_or] at line ⊢
    exact ⟨line.1, line_of_mem_verbs member, line.2⟩
  have apart : ∀ verb ∈ verbs, Text.neverBegins ['*', ' '] verb := by decide
  have removed := removeName_of_last named unbroken
    (Text.not_infix_fixed_append (apart verb member) last)
  rw [dropVerb_append member whole] at removed
  simpa using removed

theorem removeName_of_further_aside (named : name ≠ []) (member : verb ∈ verbs)
    (line : '\n' ∉ aside ++ (before ++ ['*', ' '] ++ after)) (last : ¬ ['*', ' '] <:+: after) :
    removeName name
        (name ++ [' ', '*'] ++ aside ++ ['*', ' '] ++ verb ++ (before ++ ['*', ' '] ++ after)) =
      '*' :: aside ++ ['*', ' '] ++ verb ++ before ++ ['*', ' '] ++ dropVerb after := by
  have unbroken : '\n' ∉ aside ++ ['*', ' '] ++ verb ++ before ++ after := by
    simp only [List.mem_append, not_or] at line ⊢
    exact ⟨⟨⟨⟨line.1, by decide⟩, line_of_mem_verbs member⟩, line.2.1.1⟩, line.2.2⟩
  have removed := removeName_of_last named unbroken last
  simpa using removed

/-- The aside behind the name stays and the verb behind it goes, where no asterisk in the rest is
followed by a space.  Where there is one, the aside goes on to the last of them, and the verb stays
inside. -/
theorem removeName_aside_iff (named : name ≠ []) (member : verb ∈ verbs)
    (line : '\n' ∉ aside ++ rest)
    (whole : verb = "is ".toList ∨ verb = "are ".toList → ¬ "the ".toList <+: rest) :
    let described := name ++ [' ', '*'] ++ aside ++ ['*', ' '] ++ verb ++ rest
    (removeName name described = '*' :: aside ++ ['*', ' '] ++ rest ↔ ¬ ['*', ' '] <:+: rest) ∧
      ∀ before after, rest = before ++ ['*', ' '] ++ after → ¬ ['*', ' '] <:+: after →
        removeName name described =
          '*' :: aside ++ ['*', ' '] ++ verb ++ before ++ ['*', ' '] ++ dropVerb after := by
  intro described
  refine ⟨⟨fun kept found => ?_, removeName_of_closed_aside named member line whole⟩, ?_⟩
  · cases split : Text.splitLast? ['*', ' '] rest with
    | none => exact (Text.splitLast?_eq_none_iff (by decide)).mp split found
    | some pieces =>
        obtain ⟨before, after⟩ := pieces
        obtain ⟨same, last⟩ := (Text.splitLast?_eq_some_iff (by decide)).mp split
        rw [← List.append_assoc] at same
        subst same
        have stays := removeName_of_further_aside named member line fun inside =>
          last (inside.trans (List.suffix_cons ' ' after).isInfix)
        rw [kept] at stays
        obtain ⟨unmarked, nonempty⟩ := unmarked_of_mem_verbs member
        exact append_ne_of_mark unmarked nonempty _ _ _ (by simpa using stays.symm)
  · rintro before after rfl last
    exact removeName_of_further_aside named member line last

end

theorem removeName_aside_listedBar :
    "Foo".toList ≠ [] ∧ "is the ".toList ∈ verbs ∧
      removeName "Foo".toList "Foo *since v2* is the *big*, *round*bar.".toList =
        "*since v2* *big*, *round*bar.".toList := by
  have line : '\n' ∉ "since v2".toList ++ "*big*, *round*bar.".toList := by decide
  have named : "Foo".toList ≠ [] := by decide
  have removed := removeName_aside_iff named (show "is the ".toList ∈ verbs by decide) line
    (by decide)
  exact ⟨by decide, by decide, removed.1.mpr (by decide)⟩

/-- An emphasised word behind the verb keeps the verb. -/
theorem removeName_keeps_verb :
    removeName "Foo".toList "Foo *since v2* is the *big* bar.".toList =
        "*since v2* is the *big* bar.".toList ∧
      ¬ ∀ name aside verb rest : Text, name ≠ [] → aside ≠ [] → '*' ∉ aside → '\n' ∉ aside →
        verb ∈ verbs → '\n' ∉ rest →
        (verb = "is ".toList ∨ verb = "are ".toList → ¬ "the ".toList <+: rest) →
        removeName name (name ++ [' ', '*'] ++ aside ++ ['*', ' '] ++ verb ++ rest) =
          '*' :: aside ++ ['*', ' '] ++ rest := by
  refine ⟨by decide, fun kept => ?_⟩
  have stays := kept "Foo".toList "since v2".toList "is the ".toList "*big* bar.".toList
    (by decide) (by decide) (by decide) (by decide) (by decide) (by decide) (by decide)
  revert stays
  decide

end CommentSchema.Comment
