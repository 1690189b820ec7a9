import CommentSchema.Proofs.Residue
import CommentSchema.Proofs.Strictness

/-! Descriptions are collapsed.  A comment becomes one line when its tags are stripped, and each
reader trims what it leaves, so the text in front of the name is one line without blanks at its
ends.  Taking the name out keeps the end of that text, but of the blanks behind the name, or
behind the verb, it takes only the first: that is the one way in which a description can begin
with a blank. -/

namespace CommentSchema

namespace Comment

/-- A text in one line that does not end with a blank. -/
structure Finished (text : Text) : Prop where
  line : '\n' ∉ text
  last : ∀ c ∈ text.getLast?, Text.isBlank c = false

/-- A text in one line that neither begins nor ends with a blank. -/
structure Collapsed (text : Text) : Prop extends Finished text where
  first : ∀ c ∈ text.head?, Text.isBlank c = false

theorem collapsed_trim {text : Text} (line : '\n' ∉ text) : Collapsed (Text.trim text) where
  line := fun member => line ((Text.trim_isInfix text).mem member)
  last := Text.getLast?_trim text
  first := Text.head?_trim text

theorem collapsed_stripTags (comment : Text) : Collapsed (stripTags comment) where
  line := line_stripTags comment
  last := Text.getLast?_trim _
  first := Text.head?_trim _

namespace Collapsed

variable {text : Text}

theorem extract (collapsed : Collapsed text) (lead : Text) :
    Collapsed (Comment.extract lead text).1 := by
  rcases found : Comment.extract lead text with ⟨rest, payload?⟩
  cases payload? with
  | none =>
      obtain ⟨rfl, -⟩ := extract_eq_none collapsed.line found
      exact collapsed
  | some payload =>
      obtain ⟨before, after, rfl, rfl⟩ := extract_eq_some collapsed.line found
      exact collapsed_trim fun member => collapsed.line (List.mem_append_left _ member)

theorem extractOneOf (collapsed : Collapsed text) {rest : Text} {entries? : Option (List Text)}
    (found : Comment.extractOneOf text = .ok (rest, entries?)) : Collapsed rest := by
  unfold Comment.extractOneOf at found
  rw [oneOfSplit?_of_line collapsed.line] at found
  split at found
  · cases found
    exact collapsed
  · next before after split =>
      have whole := Text.splitLast?_eq_some split
      split at found
      · cases found
      · cases found
        exact collapsed_trim fun member => collapsed.line (by simp [whole, member])

theorem typeClauses (collapsed : Collapsed text) : Collapsed (Comment.typeClauses text).1 := by
  have extracted := collapsed.extract typeLead
  unfold Comment.typeClauses extractType
  split
  · next rest type same => rwa [same] at extracted
  · next rest same =>
      rw [same] at extracted
      split
      · next found => exact extracted.extractOneOf found
      · exact extracted

end Collapsed

theorem collapsed_rest (comment : Text) : Collapsed (clauses comment).rest := by
  have start := (collapsed_stripTags (body comment)).extract defaultLead
  have types := start.typeClauses
  simp only [clauses, extractDefault, extractExample]
  exact types.extract exampleLead

/-- Behind the name, or behind the name and a verb, there is one blank more. -/
def Gaps (name text : Text) : Prop :=
  ∃ verb ∈ [] :: verbs, ∃ c after,
    text = name ++ ' ' :: (verb ++ c :: after) ∧ Text.isBlank c = true

section

variable {name text : Text}

theorem ne_of_isBlank {c d : Char} (visible : Text.isBlank d = false)
    (blank : Text.isBlank c = true) : d ≠ c := by
  intro same
  rw [← same, visible] at blank
  cases blank

theorem dropVerb_of_gap {verb after : Text} {c : Char} (member : verb ∈ [] :: verbs)
    (blank : Text.isBlank c = true) : dropVerb (verb ++ c :: after) = c :: after := by
  have apart : 'i' ≠ c ∧ 'a' ≠ c ∧ 'l' ≠ c ∧ 't' ≠ c :=
    ⟨ne_of_isBlank (by decide) blank, ne_of_isBlank (by decide) blank,
      ne_of_isBlank (by decide) blank, ne_of_isBlank (by decide) blank⟩
  simp only [verbs, List.map_cons, List.map_nil, List.mem_cons, List.not_mem_nil, or_false]
    at member
  rcases member with rfl | rfl | rfl | rfl | rfl | rfl
  all_goals simp [dropVerb, verbs, List.findSome?, List.isPrefixOf?, apart]

theorem aside?_of_gap {verb after : Text} {c : Char} (member : verb ∈ [] :: verbs)
    (blank : Text.isBlank c = true) : aside? (verb ++ c :: after) = none := by
  cases found : aside? (verb ++ c :: after) with
  | none => rfl
  | some pieces =>
      obtain ⟨same, words, aside⟩ := aside?_eq_some found
      have starts : (verb ++ c :: after).head? = some '*' := by rw [same, aside]; rfl
      have others : ∀ verb ∈ [] :: verbs, verb.head? ≠ some '*' := by decide
      cases verb with
      | nil => exact absurd (Option.some.inj starts).symm (ne_of_isBlank (by decide) blank)
      | cons d rest => exact absurd starts (others (d :: rest) member)

theorem removeName_of_gap {verb after : Text} {c : Char} (named : name ≠ [])
    (member : verb ∈ [] :: verbs) (blank : Text.isBlank c = true) :
    removeName name (name ++ ' ' :: (verb ++ c :: after)) = c :: after := by
  have full : name.isEmpty = false := by simpa using named
  have whole : name ++ ' ' :: (verb ++ c :: after) = name ++ [' '] ++ (verb ++ c :: after) := by
    simp
  rw [removeName, full, whole, Text.isPrefixOf?_append]
  simp only [aside?_of_gap member blank]
  exact dropVerb_of_gap member blank

theorem first_removeName_iff (name : Text) (collapsed : Collapsed text) :
    (∀ c ∈ (removeName name text).head?, Text.isBlank c = false) ↔ ¬ Gaps name text := by
  constructor
  · intro visible gaps
    obtain ⟨verb, member, c, after, rfl, blank⟩ := gaps
    by_cases named : name = []
    · have space := collapsed.first ' ' (by simp [named])
      revert space
      decide
    · rw [removeName_of_gap named member blank] at visible
      rw [visible c rfl] at blank
      cases blank
  · intro gapless c first
    rcases removeName_cases name text with same | paraphrases
    · exact collapsed.first c (same ▸ first)
    · generalize removeName name text = rest at paraphrases first
      cases paraphrases with
      | @bare verb rest member =>
          by_contra blank
          rw [Bool.not_eq_false] at blank
          obtain ⟨after, rfl⟩ := List.head?_eq_some_iff.mp first
          exact gapless ⟨verb, member, c, after, rfl, blank⟩
      | aside member =>
          cases first
          decide

/-- A verb ends with the space behind it, so in a text that does not end so something follows. -/
theorem getLast?_of_verb {before verb rest : Text} (member : verb ∈ [] :: verbs)
    (ends : (before ++ (' ' :: verb ++ rest)).getLast? ≠ some ' ') (other : Text) :
    (other ++ rest).getLast? = (before ++ (' ' :: verb ++ rest)).getLast? := by
  have spaced : ∀ verb ∈ [] :: verbs, (' ' :: verb).getLast? = some ' ' := by decide
  cases rest with
  | nil =>
      rw [List.append_nil, List.getLast?_append, spaced verb member] at ends
      exact absurd rfl ends
  | cons c after =>
      have nonempty : c :: after ≠ [] := List.cons_ne_nil c after
      rw [← List.append_assoc, List.getLast?_append_of_ne_nil _ nonempty,
        List.getLast?_append_of_ne_nil _ nonempty]

theorem getLast?_removeName (name : Text) {text : Text} (ends : text.getLast? ≠ some ' ') :
    (removeName name text).getLast? = text.getLast? := by
  rcases removeName_cases name text with same | paraphrases
  · rw [same]
  · generalize removeName name text = rest at paraphrases
    cases paraphrases with
    | bare member => exact getLast?_of_verb member ends []
    | @aside words verb rest member =>
        have whole : name ++ ' ' :: ('*' :: (words ++ ['*', ' ']) ++ (verb ++ rest)) =
            name ++ ' ' :: '*' :: (words ++ ['*']) ++ (' ' :: verb ++ rest) := by simp
        rw [whole] at ends ⊢
        exact getLast?_of_verb member ends _

theorem getLast?_ne_space (visible : ∀ c ∈ text.getLast?, Text.isBlank c = false) :
    text.getLast? ≠ some ' ' := by
  intro space
  have blank := visible ' ' space
  revert blank
  decide

theorem finished_removeName (name : Text) (finished : Finished text) :
    Finished (removeName name text) where
  line := line_removeName finished.line
  last := by
    rw [getLast?_removeName name (getLast?_ne_space finished.last)]
    exact finished.last

theorem head?_joinNonempty (text sentence : Text) :
    (joinNonempty [' '] [text, sentence]).head? = text.head?.or sentence.head? := by
  cases text with
  | nil => cases sentence <;> simp [joinNonempty]
  | cons c rest => cases sentence <;> simp [joinNonempty, Text.join]

theorem Finished.joinNonempty {sentence : Text} (finished : Finished text)
    (closed : Finished sentence) : Finished (Comment.joinNonempty [' '] [text, sentence]) where
  line := by
    refine Text.not_mem_join (by decide) fun piece member => ?_
    rcases List.mem_pair.mp (List.mem_of_mem_filter member) with rfl | rfl
    · exact finished.line
    · exact closed.line
  last := by
    intro c last
    rw [getLast?_joinNonempty] at last
    rcases Option.or_eq_some_iff.mp last with ends | ⟨-, ends⟩
    · exact closed.last c ends
    · exact finished.last c ends

theorem collapsed_joinNonempty_iff {sentence : Text} (finished : Finished text)
    (collapsed : Collapsed sentence) :
    Collapsed (joinNonempty [' '] [text, sentence]) ↔
      ∀ c ∈ text.head?, Text.isBlank c = false := by
  constructor
  · intro joined c first
    refine joined.first c ?_
    rw [head?_joinNonempty, Option.mem_def.mp first]
    rfl
  · intro visible
    refine ⟨finished.joinNonempty collapsed.toFinished, fun c first => ?_⟩
    rw [head?_joinNonempty] at first
    rcases Option.or_eq_some_iff.mp first with begins | ⟨-, begins⟩
    · exact visible c begins
    · exact collapsed.first c begins

theorem collapsed_sentenceOf {values : List Text} (each : ∀ value ∈ values, '\n' ∉ value) :
    Collapsed (EnumBlock.sentenceOf values) where
  line := by
    have quoted : '\n' ∉
        Text.join [',', ' '] (values.map fun value => '\x60' :: value ++ ['\x60']) := by
      refine Text.not_mem_join (by decide) fun piece member => ?_
      obtain ⟨value, inside, rfl⟩ := List.mem_map.mp member
      simpa using each value inside
    unfold EnumBlock.sentenceOf
    simpa using quoted
  last := by
    intro c last
    rw [getLast?_sentenceOf] at last
    cases last
    decide
  first := by
    intro c first
    cases first
    decide

theorem collapsed_blockSentence (comment : Text) : Collapsed (blockSentence comment) := by
  rcases blockSentence_eq comment with none | ⟨values, each, same⟩
  · rw [none]
    exact ⟨⟨by simp, by simp⟩, by simp⟩
  · rw [same]
    exact collapsed_sentenceOf each

end

end Comment

namespace Interpreter

variable {builder : Builder} {strict : Bool}

/-- The description of a run that ends well is one line and does not end with a blank.  It begins
with one exactly where a gap stands behind the name. -/
theorem annotate_collapsed_iff [Dialect] {raw : Option Text} {comment : Text}
    {definition : Definition} {info : Meta}
    (done : ((standard builder strict).annotate raw comment definition).2 = .ok info) :
    Comment.Finished
        ((standard builder strict).annotate raw comment definition).1.description ∧
      (Comment.Collapsed
          ((standard builder strict).annotate raw comment definition).1.description ↔
        ¬ Comment.Gaps (Reference.interpret raw).2 (Comment.clauses comment).rest) := by
  rw [annotate_eq _ raw comment rfl] at done ⊢
  cases read : (standard builder strict).reading raw comment with
  | error error =>
      rw [read] at done
      cases done
  | ok reading =>
      rcases interpreted : Reference.interpret raw with ⟨context, name⟩
      have resolves : (standard builder strict).resolveReference raw = .ok (context, name) :=
        congrArg Except.ok interpreted
      have description := description_of_reading resolves read
      have rest := Comment.collapsed_rest comment
      have described := Comment.finished_removeName name rest.toFinished
      have sentence := Comment.collapsed_blockSentence comment
      change Comment.Finished reading.description ∧ (Comment.Collapsed reading.description ↔ _)
      rw [description, Comment.remainder, Comment.collapsed_joinNonempty_iff described sentence]
      exact ⟨described.joinNonempty sentence.toFinished, Comment.first_removeName_iff name rest⟩

def asideComment : Text := "Foo *since v2* is the\n bar.\nPossible values:\n- \x60a\x60".toList

def gappedComment : Text := "Foo  bar.".toList

theorem annotate_collapsed_asideComment :
    ((standard {} true).annotate (some "Foo".toList) asideComment {}).2 = .ok {} ∧
      Comment.Collapsed
        ((standard {} true).annotate (some "Foo".toList) asideComment {}).1.description := by
  have done : ((standard {} true).annotate (some "Foo".toList) asideComment {}).2 = .ok {} := by
    decide +kernel
  have starts : (Comment.removeName (Reference.interpret (some "Foo".toList)).2
      (Comment.clauses asideComment).rest).head? = some '*' := by decide +kernel
  have gapless := (Comment.first_removeName_iff _ (Comment.collapsed_rest asideComment)).mp
    fun c first => by
      cases starts.symm.trans first
      decide
  exact ⟨done, (annotate_collapsed_iff done).2.mpr gapless⟩

/-- Of the two spaces behind the name, the second stays in the description. -/
theorem annotate_not_collapsed :
    (((standard {} false).annotate (some "Foo".toList) gappedComment {}).2 = .ok {} ∧
      ¬ Comment.Collapsed
        ((standard {} false).annotate (some "Foo".toList) gappedComment {}).1.description) ∧
    ((standard {} true).annotate (some "Foo".toList) gappedComment {}).2 = .ok {} ∧
      ¬ Comment.Collapsed
        ((standard {} true).annotate (some "Foo".toList) gappedComment {}).1.description := by
  have spaced : ¬ Comment.Collapsed " bar.".toList := fun collapsed => by
    have visible := collapsed.first ' ' rfl
    revert visible
    decide
  have lenient : ((standard {} false).annotate (some "Foo".toList) gappedComment {}).2 = .ok {} ∧
      ((standard {} false).annotate (some "Foo".toList) gappedComment {}).1.description =
        " bar.".toList := by decide +kernel
  have strict : ((standard {} true).annotate (some "Foo".toList) gappedComment {}).2 = .ok {} ∧
      ((standard {} true).annotate (some "Foo".toList) gappedComment {}).1.description =
        " bar.".toList := by decide +kernel
  rw [lenient.2, strict.2]
  exact ⟨⟨lenient.1, spaced⟩, strict.1, spaced⟩

end Interpreter

end CommentSchema
