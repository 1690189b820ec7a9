import CommentSchema.Proofs.Reading
import CommentSchema.Proofs.Scan
import CommentSchema.Proofs.Text.Erasure

/-! What a description still holds when every reader has had its turn.  No marker word is left,
unless taking such words out of a line has joined one; and a clause is left only where one of
the clauses behind it was taken in its place. -/

namespace CommentSchema

namespace Comment

def marks : List Text := [requiredMark, optionalMark]

/-- Taking the marker words out of a line joins one, with the first word or with the second. -/
def JoinsMarks (line : Text) : Prop :=
  Text.Joins requiredMark requiredMark line ∨
    ∃ mark ∈ marks, Text.Joins optionalMark mark (Text.erase requiredMark line)

theorem not_infix_erase_marks {line mark : Text} (apart : ¬ JoinsMarks line)
    (member : mark ∈ marks) :
    ¬ mark <:+: Text.erase optionalMark (Text.erase requiredMark line) := by
  intro found
  have nonempty : ∀ mark ∈ marks, mark ≠ [] := by decide
  rcases Text.infix_erase (by decide) (nonempty mark member) found with
    ⟨before, after, same, absent⟩ | joins
  · -- The second erasure leaves no word of its own, so the mark is the word of the first.
    have required : mark = requiredMark := by
      rcases List.mem_cons.mp member with same | other
      · exact same
      · rw [List.mem_singleton.mp other] at absent
        exact absurd (List.prefix_append _ _) absent
    have inside : requiredMark <:+: Text.erase requiredMark line :=
      ⟨before, after, by rw [same, required, List.append_assoc]⟩
    rcases Text.infix_erase (by decide) (by decide) inside with ⟨_, _, _, fresh⟩ | joins
    · exact fresh (List.prefix_append _ _)
    · exact apart (.inl joins)
  · exact apart (.inr ⟨mark, member, joins⟩)

/-- Where there is no word to take out, none is joined. -/
theorem not_joinsMarks {line : Text} (absent : ∀ mark ∈ marks, ¬ mark <:+: line) :
    ¬ JoinsMarks line := by
  have required : ¬ requiredMark <:+: line := absent requiredMark (by simp [marks])
  intro joins
  rcases joins with joins | ⟨mark, -, joins⟩
  · exact required joins.infix_text
  · rw [Text.erase_of_not_infix required] at joins
    exact absent optionalMark (by simp [marks]) joins.infix_text

theorem not_infix_stripTags {comment mark : Text}
    (apart : ∀ line ∈ Text.lines comment, ¬ JoinsMarks line) (member : mark ∈ marks) :
    ¬ mark <:+: stripTags comment := by
  have keeps : ∀ mark ∈ marks, mark ≠ [] ∧ Text.keepsOut mark [' '] := by decide
  intro found
  refine Text.not_infix_join (keeps mark member).1 (keeps mark member).2 ?_
    (found.trans (Text.trim_isInfix _))
  intro piece inside
  obtain ⟨line, kept, rfl⟩ := List.mem_map.mp inside
  exact not_infix_erase_marks (apart line (List.mem_of_mem_filter kept)) member

theorem line_stripTags (comment : Text) : '\n' ∉ stripTags comment := by
  intro member
  refine Text.not_mem_join (by decide) ?_ ((Text.trim_isInfix _).mem member)
  intro piece inside broken
  obtain ⟨line, kept, rfl⟩ := List.mem_map.mp inside
  have inLine := Text.mem_of_mem_erase (by decide) (Text.mem_of_mem_erase (by decide) broken)
  exact Text.not_mem_of_mem_split (List.mem_of_mem_filter kept) inLine

/-- What a reader leaves of a text that may have a clause: the whole text where there is none,
and else a piece of what stands before a clause. -/
def Leaves (lead text rest : Text) : Prop :=
  (rest = text ∧ ¬ HasClause lead text) ∨
    ∃ before after, text = before ++ after ∧ rest <:+: before ∧ HasClause lead after

namespace Leaves

variable {lead text rest : Text}

theorem infix_text (leaves : Leaves lead text rest) : rest <:+: text := by
  rcases leaves with ⟨same, -⟩ | ⟨before, after, rfl, inside, -⟩
  · exact same ▸ List.infix_rfl
  · exact inside.trans (List.prefix_append before after).isInfix

/-- A clause that stays was followed by another one. -/
theorem followed (leaves : Leaves lead text rest) (stays : HasClause lead rest) :
    ∃ before after, text = before ++ after ∧ HasClause lead before ∧ HasClause lead after := by
  rcases leaves with ⟨same, absent⟩ | ⟨before, after, split, inside, taken⟩
  · exact absurd (same ▸ stays) absent
  · exact ⟨before, after, split, stays.mono inside, taken⟩

end Leaves

theorem leaves_of_split {lead text before payload after : Text}
    (split : text = before ++ (lead ++ (payload ++ backtick :: after))) :
    Leaves lead text (Text.trim before) :=
  .inr ⟨before, _, split, Text.trim_isInfix before, hasClause_append (by simp)⟩

theorem extract_leaves (lead : Text) {text : Text} (line : '\n' ∉ text) :
    Leaves lead text (extract lead text).1 := by
  rcases found : extract lead text with ⟨rest, payload?⟩
  cases payload? with
  | none =>
      obtain ⟨same, absent⟩ := extract_eq_none line found
      exact .inl ⟨same, absent⟩
  | some payload =>
      obtain ⟨before, after, split, rfl⟩ := extract_eq_some line found
      exact leaves_of_split split

/-- The lead of a list, up to the backtick of its first entry. -/
def listLead : Text := oneOfLead ++ [backtick]

theorem extractOneOf_leaves {text rest : Text} {entries? : Option (List Text)}
    (line : '\n' ∉ text) (found : extractOneOf text = .ok (rest, entries?)) :
    Leaves listLead text rest := by
  unfold extractOneOf at found
  rw [oneOfSplit?_of_line line] at found
  cases split : Text.splitLast? oneOfLead text with
  | none =>
      rw [split] at found
      cases found
      have absent := (Text.splitLast?_eq_none_iff (by decide)).mp split
      refine .inl ⟨rfl, fun clause => absent ?_⟩
      obtain ⟨payload, inside⟩ := clause
      rw [listLead, List.append_assoc] at inside
      exact (List.prefix_append oneOfLead _).isInfix.trans inside
  | some pieces =>
      obtain ⟨before, after⟩ := pieces
      rw [split] at found
      cases listed : entries after with
      | nil => simp [listed] at found
      | cons payload others =>
          simp only [listed] at found
          cases found
          obtain ⟨rest, same⟩ := entries_eq_cons listed
          have whole : text = before ++ (listLead ++ (payload ++ backtick :: rest)) := by
            rw [Text.splitLast?_eq_some split, same, listLead, List.append_assoc]
            rfl
          exact leaves_of_split whole

/-- The kinds of clauses that a reader looks for. -/
inductive ClauseKind where
  | default
  | override
  | oneOf
  | sample
deriving DecidableEq

namespace ClauseKind

def lead : ClauseKind → Text
  | default => defaultLead
  | override => typeLead
  | oneOf => listLead
  | sample => exampleLead

/-- The kinds of which a clause that is taken from behind one of this kind leaves that one. -/
def hiddenBy : ClauseKind → List ClauseKind
  | oneOf => [oneOf, override]
  | kind => [kind]

end ClauseKind

/-- A clause stands before one that hides it. -/
def Hidden (kind : ClauseKind) (text : Text) : Prop :=
  ∃ later ∈ kind.hiddenBy, ∃ before after,
    text = before ++ after ∧ HasClause kind.lead before ∧ HasClause later.lead after

theorem Hidden.mono {kind : ClauseKind} {text whole : Text} (hidden : Hidden kind text)
    (inside : text <:+: whole) : Hidden kind whole := by
  obtain ⟨later, member, before, after, rfl, stays, taken⟩ := hidden
  obtain ⟨front, back, rfl⟩ := inside
  refine ⟨later, member, front ++ before, after ++ back, by simp, ?_, ?_⟩
  · exact stays.mono (List.suffix_append front before).isInfix
  · exact taken.mono (List.prefix_append after back).isInfix

theorem hidden_of_leaves {kind : ClauseKind} {text rest : Text}
    (leaves : Leaves kind.lead text rest) (stays : HasClause kind.lead rest) :
    Hidden kind text := by
  obtain ⟨before, after, split, stands, taken⟩ := leaves.followed stays
  refine ⟨kind, ?_, before, after, split, stands, taken⟩
  cases kind with
  | default | override | oneOf | sample => decide

/-- A clause about the type stays only where an override was taken from behind it, or a list
from behind a list. -/
theorem hidden_of_typeClauses {kind : ClauseKind} (about : kind = .override ∨ kind = .oneOf)
    {text : Text} (line : '\n' ∉ text)
    (readable : (extractType text).2 = none → ∃ found, extractOneOf text = .ok found)
    (stays : HasClause kind.lead (typeClauses text).1) : Hidden kind text := by
  unfold typeClauses at stays
  rcases extracted : extractType text with ⟨rest, type?⟩
  rw [extracted] at stays readable
  cases type? with
  | some type =>
      obtain ⟨before, after, split, rfl⟩ := extract_eq_some line extracted
      refine ⟨.override, ?_, before, _, split, stays.mono (Text.trim_isInfix before),
        hasClause_append (by simp)⟩
      rcases about with rfl | rfl <;> decide
  | none =>
      obtain ⟨rfl, absent⟩ := extract_eq_none line extracted
      obtain ⟨⟨rest, entries?⟩, found⟩ := readable rfl
      simp only [found] at stays
      have leaves := extractOneOf_leaves line found
      rcases about with rfl | rfl
      · exact absurd (stays.mono leaves.infix_text) absent
      · exact hidden_of_leaves leaves stays

/-- Where a piece has been cut out behind a seam that a word cannot run over, the word was there
before. -/
theorem infix_of_cut {word before seam cut rest : Text} (keeps : Text.keepsOut word seam)
    (found : word <:+: before ++ (seam ++ rest)) :
    word <:+: before ++ (seam ++ (cut ++ rest)) := by
  by_cases inBefore : word <:+: before
  · exact inBefore.trans (List.prefix_append _ _).isInfix
  · by_cases inRest : word <:+: rest
    · refine inRest.trans (List.IsSuffix.isInfix ⟨before ++ (seam ++ cut), ?_⟩)
      simp
    · exact absurd found (Text.not_infix_of_keepsOut keeps inBefore inRest)

theorem hasClause_of_cut {lead before seam cut rest : Text} (nonempty : lead ≠ [])
    (keeps : Text.keepsOut lead seam) (unticked : backtick ∉ seam)
    (found : HasClause lead (before ++ (seam ++ rest))) :
    HasClause lead (before ++ (seam ++ (cut ++ rest))) := by
  obtain ⟨front, back, same, inside, member⟩ := hasClause_iff.mp found
  rcases List.append_eq_append_iff.mp same with ⟨piece, rfl, behind⟩ | ⟨piece, rfl, rfl⟩
  · rcases List.append_eq_append_iff.mp behind with ⟨later, rfl, rfl⟩ | ⟨later, rfl, rfl⟩
    · refine hasClause_iff.mpr ⟨before ++ (seam ++ (cut ++ later)), back, by simp, ?_, member⟩
      exact infix_of_cut keeps inside
    · -- The backtick is behind the seam, and the lead cannot reach into the seam.
      have inBefore : lead <:+: before := by
        by_contra outside
        have nothing : ¬ lead <:+: ([] : Text) := by simpa using nonempty
        refine Text.not_infix_of_keepsOut keeps outside nothing (inside.trans ?_)
        exact List.IsPrefix.isInfix ⟨later, by simp⟩
      refine hasClause_iff.mpr ⟨before, _, rfl, inBefore, ?_⟩
      simp only [List.mem_append, not_or] at member unticked ⊢
      tauto
  · refine hasClause_iff.mpr ⟨front, _, List.append_assoc .., inside, ?_⟩
    simp only [List.mem_append] at member ⊢
    tauto

theorem infix_of_removeName {word name text : Text} (keeps : Text.keepsOut word ['*', ' '])
    (found : word <:+: removeName name text) : word <:+: text := by
  rcases removeName_eq name text with whole | ⟨front, words, verb, rest, rfl, same⟩
  · exact found.trans whole.isInfix
  · rw [same] at found
    exact (infix_of_cut keeps found).trans (List.suffix_append front _).isInfix

theorem line_removeName {name text : Text} (line : '\n' ∉ text) : '\n' ∉ removeName name text := by
  intro broken
  have inside := infix_of_removeName (by decide) ((List.singleton_infix_iff _ _).mpr broken)
  exact line ((List.singleton_infix_iff _ _).mp inside)

theorem hasClause_of_removeName {lead name text : Text} (nonempty : lead ≠ [])
    (keeps : Text.keepsOut lead ['*', ' ']) (found : HasClause lead (removeName name text)) :
    HasClause lead text := by
  rcases removeName_eq name text with whole | ⟨front, words, verb, rest, rfl, same⟩
  · exact found.mono whole.isInfix
  · rw [same] at found
    exact (hasClause_of_cut nonempty keeps (by decide) found).mono
      (List.suffix_append front _).isInfix

theorem typeClauses_isInfix {text : Text} (line : '\n' ∉ text) :
    (typeClauses text).1 <:+: text := by
  have leaves := extract_leaves typeLead line
  unfold typeClauses extractType
  rcases extracted : extract typeLead text with ⟨rest, type?⟩
  rw [extracted] at leaves
  cases type? with
  | some type => exact leaves.infix_text
  | none =>
      obtain ⟨rfl, -⟩ := extract_eq_none line extracted
      cases found : extractOneOf rest with
      | error error =>
          simp only [found]
          exact List.infix_rfl
      | ok listed =>
          simp only [found]
          exact (extractOneOf_leaves line found).infix_text

section

variable {name comment : Text}

theorem infix_afterDefault (comment : Text) :
    (extractDefault (stripTags (body comment))).1 <:+: stripTags (body comment) :=
  (extract_leaves defaultLead (line_stripTags _)).infix_text

theorem line_afterDefault (comment : Text) :
    '\n' ∉ (extractDefault (stripTags (body comment))).1 := fun member =>
  line_stripTags _ ((infix_afterDefault comment).mem member)

theorem leaves_example (comment : Text) :
    Leaves exampleLead (typeClauses (extractDefault (stripTags (body comment))).1).1
      (clauses comment).rest := by
  simp only [clauses, extractExample]
  refine extract_leaves exampleLead fun member => ?_
  exact line_afterDefault comment ((typeClauses_isInfix (line_afterDefault comment)).mem member)

theorem not_infix_remainder (apart : ∀ line ∈ Text.lines (body comment), ¬ JoinsMarks line)
    {mark : Text} (member : mark ∈ marks) : ¬ mark <:+: remainder name comment := by
  have keeps : ∀ mark ∈ marks, Text.keepsOut mark ['*', ' '] := by decide
  intro found
  have inRest : mark <:+: (clauses comment).rest := infix_of_removeName (keeps mark member) found
  have inTyped := inRest.trans (leaves_example comment).infix_text
  have inStart := inTyped.trans (typeClauses_isInfix (line_afterDefault comment))
  exact not_infix_stripTags apart member (inStart.trans (infix_afterDefault comment))

/-- A clause that is left in the end is hidden in the comment, by what was taken instead. -/
theorem hidden_of_remainder {kind : ClauseKind}
    (readable : (extractType (extractDefault (stripTags (body comment))).1).2 = none →
      ∃ found, extractOneOf (extractDefault (stripTags (body comment))).1 = .ok found)
    (stays : HasClause kind.lead (remainder name comment)) :
    Hidden kind (stripTags (body comment)) := by
  have leads : kind.lead ≠ [] ∧ Text.keepsOut kind.lead ['*', ' '] := by
    cases kind with
    | default | override | oneOf | sample => decide
  have line := line_afterDefault comment
  have inTypes := typeClauses_isInfix line
  have inStart := infix_afterDefault comment
  have leaves := leaves_example comment
  have inRest : HasClause kind.lead (clauses comment).rest :=
    hasClause_of_removeName leads.1 leads.2 stays
  have inTyped := inRest.mono leaves.infix_text
  cases kind with
  | default =>
      exact hidden_of_leaves (extract_leaves defaultLead (line_stripTags _))
        (inTyped.mono inTypes)
  | override =>
      exact (hidden_of_typeClauses (.inl rfl) line readable inTyped).mono inStart
  | oneOf =>
      exact (hidden_of_typeClauses (.inr rfl) line readable inTyped).mono inStart
  | sample =>
      have hidden : Hidden .sample _ := hidden_of_leaves leaves inRest
      exact hidden.mono (inTypes.trans inStart)

end

end Comment

namespace Interpreter

variable {builder : Builder} {strict : Bool}

/-- A run that goes on past the types has met no list lead without entries. -/
theorem extractOneOf_of_readShape {interpreter : Interpreter} {name context text : Text}
    {answer : Text × Shape} (read : (interpreter.readShape name context text).outcome = .ok answer)
    (unstated : (Comment.extractType text).2 = none) :
    ∃ found, Comment.extractOneOf text = .ok found := by
  unfold readShape at read
  rcases extracted : Comment.extractType text with ⟨rest, type?⟩
  rw [extracted] at read unstated
  cases unstated
  cases Comment.extractType_none extracted
  rw [Run.outcome_bind, Run.outcome_lift] at read
  obtain ⟨found, listed, -⟩ := Error.bind_eq_ok.mp read
  exact ⟨found, listed⟩

/-- What a run puts in front of the sentence about the enum block has no marker word, unless
erasing such words joins one, and only clauses that are hidden in the comment. -/
theorem annotate_residue [Dialect] {raw : Option Text} {comment : Text} {definition : Definition}
    {info : Meta}
    (done : ((standard builder strict).annotate raw comment definition).2 = .ok info) :
    ∃ described, ((standard builder strict).annotate raw comment definition).1.description =
        Comment.joinNonempty [' '] [described, Comment.blockSentence comment] ∧
      ((∀ line ∈ Text.lines (Comment.body comment), ¬ Comment.JoinsMarks line) →
        ∀ mark ∈ Comment.marks, ¬ mark <:+: described) ∧
      ∀ kind : Comment.ClauseKind, Comment.HasClause kind.lead described →
        Comment.Hidden kind (Comment.stripTags (Comment.body comment)) := by
  rw [annotate_eq _ raw comment rfl] at done ⊢
  cases read : (standard builder strict).reading raw comment with
  | error error =>
      rw [read] at done
      cases done
  | ok reading =>
      obtain ⟨context, name, _, _, _, _, resolves, readDefault, readShape, -⟩ :=
        steps_of_reading read
      obtain ⟨rfl, -⟩ := readDefault_ok readDefault
      refine ⟨Comment.remainder name comment, description_of_reading resolves read,
        fun apart mark => ?_, fun kind => ?_⟩
      · exact Comment.not_infix_remainder apart
      · exact Comment.hidden_of_remainder (extractOneOf_of_readShape readShape)

def listedBeforeOverride : Text :=
  "A is x. Schema type is one of \x60int\x60. Schema type is \x60str\x60.".toList

def repeatedDefault : Text := "A is x. Defaults to \x601\x60. Defaults to \x602\x60.".toList

def wrappedMark : Text := "A is +requ+requiredired.".toList

theorem annotate_residue_repeatedDefault :
    ((standard {} false).annotate (some "A".toList) repeatedDefault {}).2 = .ok {} ∧
      ∃ described,
        ((standard {} false).annotate (some "A".toList) repeatedDefault {}).1.description =
          Comment.joinNonempty [' '] [described, Comment.blockSentence repeatedDefault] ∧
        (∀ mark ∈ Comment.marks, ¬ mark <:+: described) ∧
        ∀ kind : Comment.ClauseKind, Comment.HasClause kind.lead described →
          Comment.Hidden kind (Comment.stripTags (Comment.body repeatedDefault)) := by
  have done : ((standard {} false).annotate (some "A".toList) repeatedDefault {}).2 = .ok {} := by
    decide +kernel
  obtain ⟨described, split, unmarked, hidden⟩ := annotate_residue done
  refine ⟨done, described, split, unmarked fun line member => ?_, hidden⟩
  have whole : Text.lines (Comment.body repeatedDefault) = [repeatedDefault] := by decide +kernel
  rw [whole, List.mem_singleton] at member
  rw [member]
  exact Comment.not_joinsMarks (by decide)

/-- A list before an override, a default before a default and a mark put together from the pieces
around a mark stay in the description. -/
theorem annotate_keeps_annotations :
    (((standard {} false).annotate (some "A".toList) listedBeforeOverride {}).2 =
        .ok { noDerive := true } ∧ Comment.blockSentence listedBeforeOverride = [] ∧
      Comment.HasClause Comment.listLead
        ((standard {} false).annotate (some "A".toList) listedBeforeOverride {}).1.description) ∧
    (((standard {} false).annotate (some "A".toList) repeatedDefault {}).2 = .ok {} ∧
      Comment.blockSentence repeatedDefault = [] ∧
      Comment.HasClause Comment.defaultLead
        ((standard {} false).annotate (some "A".toList) repeatedDefault {}).1.description) ∧
    ((standard {} false).annotate (some "A".toList) wrappedMark {}).2 = .ok {} ∧
      Comment.blockSentence wrappedMark = [] ∧
      Comment.requiredMark <:+:
        ((standard {} false).annotate (some "A".toList) wrappedMark {}).1.description := by
  have listed : ((standard {} false).annotate (some "A".toList) listedBeforeOverride
      {}).1.description = "x. Schema type is one of \x60int\x60.".toList := by decide +kernel
  have repeated : ((standard {} false).annotate (some "A".toList) repeatedDefault
      {}).1.description = "x. Defaults to \x601\x60.".toList := by decide +kernel
  have wrapped : ((standard {} false).annotate (some "A".toList) wrappedMark
      {}).1.description = "+required.".toList := by decide +kernel
  rw [listed, repeated, wrapped]
  refine ⟨⟨by decide +kernel, by decide +kernel, "int".toList, ?_⟩,
    ⟨by decide +kernel, by decide +kernel, "1".toList, ?_⟩,
    by decide +kernel, by decide +kernel, ?_⟩
  · decide
  · decide
  · decide

end Interpreter

end CommentSchema
