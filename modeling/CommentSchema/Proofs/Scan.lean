import CommentSchema.Comment.Paraphrase
import CommentSchema.Proofs.Clause

/-! What the clause readers find on any line.  A clause is a lead with a backtick somewhere
behind it; a reader that finds none has met none, and one that finds a clause hands back what
stands before it. -/

namespace CommentSchema

namespace Text

theorem splitLast?_eq_none_iff {word text : Text} (nonempty : word ≠ []) :
    splitLast? word text = none ↔ ¬ word <:+: text := by
  refine ⟨fun none found => ?_, splitLast?_eq_none⟩
  induction text with
  | nil => exact nonempty (List.infix_nil.mp found)
  | cons c rest ih =>
      rw [List.infix_cons_iff] at found
      unfold splitLast? at none
      split at none
      · cases none
      · next absent =>
          rcases found with ⟨after, same⟩ | found
          · rw [← same, isPrefixOf?_append] at none
            cases none
          · exact ih absent found

theorem splitLast?_eq_some {word text before after : Text}
    (found : splitLast? word text = some (before, after)) : text = before ++ (word ++ after) := by
  induction text generalizing before with
  | nil => cases found
  | cons c rest ih =>
      unfold splitLast? at found
      split at found
      · next inside =>
          cases found
          rw [ih inside, List.cons_append]
      · cases here : word.isPrefixOf? (c :: rest) with
        | none =>
            rw [here] at found
            cases found
        | some behind =>
            rw [here] at found
            cases found
            exact (List.isPrefixOf?_eq_some_iff_append_eq.mp here).symm

theorem splitLast?_eq_some_iff {word text before after : Text} (nonempty : word ≠ []) :
    splitLast? word text = some (before, after) ↔
      text = before ++ (word ++ after) ∧ ¬ word <:+: word.tail ++ after := by
  constructor
  · intro found
    refine ⟨splitLast?_eq_some found, ?_⟩
    induction text generalizing before with
    | nil => cases found
    | cons c rest ih =>
        unfold splitLast? at found
        split at found
        · next inside =>
            cases found
            exact ih inside
        · next absent =>
            obtain ⟨behind, here, same⟩ := Option.map_eq_some_iff.mp found
            cases same
            rw [splitLast?_eq_none_iff nonempty] at absent
            obtain ⟨d, others, rfl⟩ := List.exists_cons_of_ne_nil nonempty
            obtain ⟨-, rfl⟩ := List.cons.inj (List.isPrefixOf?_eq_some_iff_append_eq.mp here)
            exact absent
  · intro split
    obtain ⟨rfl, last⟩ := split
    simpa using splitLast?_append before (splitLast?_of_last nonempty last)

end Text

namespace Comment

theorem toLastBacktick?_eq_some {text payload : Text}
    (found : toLastBacktick? text = some payload) :
    ∃ after, text = payload ++ backtick :: after := by
  induction text generalizing payload with
  | nil => cases found
  | cons c rest ih =>
      unfold toLastBacktick? at found
      split at found
      · next inside =>
          cases found
          obtain ⟨after, same⟩ := ih inside
          exact ⟨after, by rw [same, List.cons_append]⟩
      · split at found
        · next tick =>
            cases found
            exact ⟨rest, by rw [eq_of_beq tick, List.nil_append]⟩
        · cases found

theorem toLastBacktick?_eq_none_iff {text : Text} :
    toLastBacktick? text = none ↔ backtick ∉ text := by
  refine ⟨fun none member => ?_, toLastBacktick?_eq_none⟩
  obtain ⟨front, back, same⟩ := List.append_of_mem member
  induction front generalizing text with
  | nil =>
      rw [same, List.nil_append] at none
      simp only [toLastBacktick?, beq_self_eq_true, if_true] at none
      split at none <;> cases none
  | cons c front ih =>
      rw [same, List.cons_append] at none
      unfold toLastBacktick? at none
      split at none
      · cases none
      · next absent => exact ih absent (by simp) rfl

/-- A complete clause: the lead, and a payload that a backtick ends. -/
def HasClause (lead text : Text) : Prop :=
  ∃ payload, lead ++ (payload ++ [backtick]) <:+: text

/-- A text has a clause where a backtick stands behind the lead. -/
theorem hasClause_iff {lead text : Text} :
    HasClause lead text ↔
      ∃ front back, text = front ++ back ∧ lead <:+: front ∧ backtick ∈ back := by
  constructor
  · intro found
    obtain ⟨payload, before, after, same⟩ := found
    refine ⟨before ++ lead, payload ++ [backtick] ++ after, by simp [← same],
      (List.suffix_append before lead).isInfix, by simp⟩
  · intro found
    obtain ⟨front, back, rfl, ⟨before, between, rfl⟩, member⟩ := found
    obtain ⟨payload, after, rfl⟩ := List.append_of_mem member
    exact ⟨between ++ payload, before, after, by simp⟩

theorem HasClause.mono {lead text whole : Text} (found : HasClause lead text)
    (inside : text <:+: whole) : HasClause lead whole := by
  obtain ⟨payload, found⟩ := found
  exact ⟨payload, found.trans inside⟩

theorem hasClause_append {lead after : Text} (member : backtick ∈ after) :
    HasClause lead (lead ++ after) :=
  hasClause_iff.mpr ⟨lead, after, rfl, List.infix_rfl, member⟩

theorem hasClause_cons {lead rest : Text} {c : Char} :
    HasClause lead (c :: rest) ↔
      (∃ after, lead ++ after = c :: rest ∧ backtick ∈ after) ∨ HasClause lead rest := by
  constructor
  · intro found
    obtain ⟨payload, found⟩ := found
    rcases List.infix_cons_iff.mp found with ⟨after, same⟩ | found
    · rw [List.append_assoc] at same
      exact .inl ⟨_, same, by simp⟩
    · exact .inr ⟨payload, found⟩
  · intro found
    rcases found with ⟨after, same, member⟩ | found
    · rw [← same]
      exact hasClause_append member
    · exact found.mono (List.suffix_cons c rest).isInfix

theorem clauseInLine?_eq_some {lead line before payload : Text}
    (found : clauseInLine? lead line = some (before, payload)) :
    ∃ after, line = before ++ (lead ++ (payload ++ backtick :: after)) := by
  induction line generalizing before with
  | nil => cases found
  | cons c rest ih =>
      unfold clauseInLine? at found
      split at found
      · next inside =>
          cases found
          obtain ⟨after, same⟩ := ih inside
          exact ⟨after, by rw [same, List.cons_append]⟩
      · split at found
        · next behind here =>
            obtain ⟨payload, ends, same⟩ := Option.map_eq_some_iff.mp found
            cases same
            obtain ⟨after, rfl⟩ := toLastBacktick?_eq_some ends
            exact ⟨after, (List.isPrefixOf?_eq_some_iff_append_eq.mp here).symm⟩
        · cases found

theorem clauseInLine?_eq_none_iff {lead line : Text} :
    clauseInLine? lead line = none ↔ ¬ HasClause lead line := by
  induction line with
  | nil => simp [clauseInLine?, HasClause]
  | cons c rest ih =>
      rw [hasClause_cons, not_or, ← ih, clauseInLine?]
      cases clauseInLine? lead rest with
      | some found => simp
      | none =>
          simp only [and_true]
          cases here : lead.isPrefixOf? (c :: rest) with
          | none =>
              refine iff_of_true rfl fun found => ?_
              obtain ⟨after, same, -⟩ := found
              rw [← same, Text.isPrefixOf?_append] at here
              cases here
          | some after =>
              have same := List.isPrefixOf?_eq_some_iff_append_eq.mp here
              simp only [Option.map_eq_none_iff, toLastBacktick?_eq_none_iff, ← same,
                List.append_cancel_left_eq, exists_eq_left]

theorem extract_eq_some {lead text rest payload : Text} (line : '\n' ∉ text)
    (found : extract lead text = (rest, some payload)) :
    ∃ before after, text = before ++ (lead ++ (payload ++ backtick :: after)) ∧
      rest = Text.trim before := by
  rw [extract_of_line line] at found
  cases inside : clauseInLine? lead text with
  | none =>
      rw [inside] at found
      cases found
  | some clause =>
      rw [inside] at found
      cases found
      obtain ⟨after, same⟩ := clauseInLine?_eq_some inside
      exact ⟨_, after, same, rfl⟩

theorem extract_eq_none {lead text rest : Text} (line : '\n' ∉ text)
    (absent : extract lead text = (rest, none)) : rest = text ∧ ¬ HasClause lead text := by
  rw [extract_of_line line] at absent
  cases inside : clauseInLine? lead text with
  | none =>
      rw [inside] at absent
      cases absent
      exact ⟨rfl, clauseInLine?_eq_none_iff.mp inside⟩
  | some clause =>
      rw [inside] at absent
      cases absent

theorem item?_eq_some {text payload after : Text} (found : item? text = some (payload, after)) :
    payload ≠ [] ∧ backtick ∉ payload ∧
      ∃ rest, text = backtick :: (payload ++ backtick :: rest) := by
  unfold item? at found
  split at found
  · cases found
  · next c rest =>
      split at found
      · cases found
      · next tick =>
          simp only [bne_iff_ne, ne_eq, Decidable.not_not] at tick
          dsimp only at found
          split at found
          · cases found
          · next d others behind =>
              split at found
              · cases found
              · next full =>
                  cases found
                  refine ⟨by simpa using full, unticked_takeWhile rest, others, ?_⟩
                  rw [tick, takeWhile_append_tick behind]

/-- No entry begins the text. -/
theorem item?_eq_none_iff {text : Text} :
    item? text = none ↔ ∀ payload rest, payload ≠ [] → backtick ∉ payload →
      text ≠ backtick :: (payload ++ backtick :: rest) := by
  constructor
  · intro none payload rest nonempty unticked same
    rw [same, item?_quoted nonempty unticked] at none
    cases none
  · intro absent
    cases found : item? text with
    | none => rfl
    | some item =>
        obtain ⟨nonempty, unticked, rest, same⟩ := item?_eq_some found
        exact absurd same (absent item.1 rest nonempty unticked)

theorem entries_eq_cons {text payload : Text} {others : List Text}
    (found : entries text = payload :: others) :
    ∃ rest, text = backtick :: (payload ++ backtick :: rest) := by
  unfold entries at found
  cases size : text.length with
  | zero =>
      rw [size] at found
      cases found
  | succ steps =>
      rw [size, entriesFrom] at found
      cases first : item? text with
      | none =>
          rw [first] at found
          cases found
      | some item =>
          rw [first] at found
          cases found
          exact (item?_eq_some first).2.2

theorem entries_eq_nil_iff {text : Text} : entries text = [] ↔ item? text = none := by
  cases text with
  | nil => simp [entries, entriesFrom, item?]
  | cons c rest =>
      rw [entries, List.length_cons, entriesFrom]
      cases item? (c :: rest) with
      | none => simp
      | some item => simp

theorem dropVerb_eq (text : Text) : ∃ verb ∈ [] :: verbs, text = verb ++ dropVerb text := by
  unfold dropVerb
  cases found : verbs.findSome? (·.isPrefixOf? text) with
  | none => exact ⟨[], List.mem_cons_self, rfl⟩
  | some rest =>
      obtain ⟨verb, member, here⟩ := List.exists_of_findSome?_eq_some found
      exact ⟨verb, List.mem_cons_of_mem _ member,
        (List.isPrefixOf?_eq_some_iff_append_eq.mp here).symm⟩

theorem toLastClosing_eq_some {text aside after : Text}
    (found : aside?.toLastClosing text = some (aside, after)) :
    text = aside ++ after ∧ ∃ words, aside = words ++ ['*', ' '] := by
  induction text generalizing aside with
  | nil => cases found
  | cons c rest ih =>
      unfold aside?.toLastClosing at found
      split at found
      · cases found
      · split at found
        · next inside =>
            cases found
            obtain ⟨same, words, ends⟩ := ih inside
            exact ⟨by rw [same, List.cons_append], c :: words, by rw [ends, List.cons_append]⟩
        · split at found
          · cases found
            exact ⟨rfl, [], rfl⟩
          · cases found

theorem aside?_eq_some {text aside after : Text} (found : aside? text = some (aside, after)) :
    text = aside ++ after ∧ ∃ words, aside = '*' :: (words ++ ['*', ' ']) := by
  unfold aside? at found
  split at found
  · next rest =>
      obtain ⟨⟨inner, behind⟩, closing, same⟩ := Option.map_eq_some_iff.mp found
      cases same
      obtain ⟨rfl, words, ends⟩ := toLastClosing_eq_some closing
      exact ⟨rfl, words, by rw [ends]⟩
  · cases found

/-- What a description is left with when it begins with the name: the aside, if there is one, and
what stands behind the verb. -/
inductive Paraphrases (name : Text) : (text rest : Text) → Prop where
  | bare {verb rest : Text} (member : verb ∈ [] :: verbs) :
      Paraphrases name (name ++ ' ' :: (verb ++ rest)) rest
  | aside {words verb rest : Text} (member : verb ∈ [] :: verbs) :
      Paraphrases name (name ++ ' ' :: ('*' :: (words ++ ['*', ' ']) ++ (verb ++ rest)))
        ('*' :: (words ++ ['*', ' ']) ++ rest)

theorem removeName_cases (name text : Text) :
    removeName name text = text ∨ Paraphrases name text (removeName name text) := by
  unfold removeName
  split
  · exact .inl rfl
  · split
    · exact .inl rfl
    · next rest here =>
        have same := List.isPrefixOf?_eq_some_iff_append_eq.mp here
        rw [List.append_assoc, List.singleton_append] at same
        rw [← same]
        split
        · next aside after found =>
            obtain ⟨rfl, words, rfl⟩ := aside?_eq_some found
            obtain ⟨verb, member, split⟩ := dropVerb_eq after
            generalize dropVerb after = kept at split ⊢
            subst split
            exact .inr (.aside member)
        · obtain ⟨verb, member, split⟩ := dropVerb_eq rest
          generalize dropVerb rest = kept at split ⊢
          subst split
          exact .inr (.bare member)

/-- Removing the name leaves a piece from the end of a description, or an aside and such a
piece behind it. -/
theorem removeName_eq (name text : Text) :
    removeName name text <:+ text ∨
      ∃ front words verb rest, text = front ++ (words ++ (['*', ' '] ++ (verb ++ rest))) ∧
        removeName name text = words ++ (['*', ' '] ++ rest) := by
  rcases removeName_cases name text with same | paraphrases
  · rw [same]
    exact .inl List.suffix_rfl
  · generalize removeName name text = rest at paraphrases ⊢
    cases paraphrases with
    | @bare verb rest member =>
        exact .inl ⟨name ++ ' ' :: verb, by simp⟩
    | @aside words verb rest member =>
        exact .inr ⟨name ++ [' '], '*' :: words, verb, rest, by simp, by simp⟩

end Comment

end CommentSchema
