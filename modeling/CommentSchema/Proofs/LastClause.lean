import CommentSchema.Comment.Grammar
import CommentSchema.Proofs.Scan
import CommentSchema.Proofs.Text.Pattern

/-! The last clause of a line.  The pattern of a clause takes as much as it can in front of the
lead and as much as it can behind it, so what it finds on a line is the last lead that has a
backtick behind it and the text up to the last backtick; and a scan of the line from its end
finds the same. -/

namespace CommentSchema.Comment

variable {lead line before payload : Text}

/-- The last place on a line where a backtick follows the lead, and the text from the lead to
the last backtick. -/
structure LastClause (lead line before payload : Text) : Prop where
  found : ∃ after, line = before ++ (lead ++ (payload ++ backtick :: after)) ∧ backtick ∉ after
  last : ∀ front rest, line = front ++ (lead ++ rest) → backtick ∈ rest →
    front.length ≤ before.length

/-- What a pass answers that reads one kind of clauses. -/
inductive ClauseReading (lead text : Text) : Text × Option Text → Prop
  | absent (nowhere : ∀ line ∈ Text.lines text, ¬ HasClause lead line) :
      ClauseReading lead text (text, none)
  | found {front back : List Text} {line before payload : Text}
      (split : Text.lines text = front ++ line :: back)
      (first : ∀ other ∈ front, ¬ HasClause lead other)
      (clause : LastClause lead line before payload) :
      ClauseReading lead text (Text.trim before, some payload)

/-! ### The scan of a line -/

theorem toLastBacktick?_eq_some_iff {text : Text} :
    toLastBacktick? text = some payload ↔
      ∃ after, text = payload ++ backtick :: after ∧ backtick ∉ after := by
  constructor
  · intro found
    induction text generalizing payload with
    | nil => cases found
    | cons c rest ih =>
        unfold toLastBacktick? at found
        split at found
        · next inside =>
            cases found
            obtain ⟨after, same, unticked⟩ := ih inside
            exact ⟨after, by rw [same, List.cons_append], unticked⟩
        · next absent =>
            split at found
            · next tick =>
                cases found
                exact ⟨rest, by rw [eq_of_beq tick, List.nil_append],
                  toLastBacktick?_eq_none_iff.mp absent⟩
            · cases found
  · rintro ⟨after, rfl, unticked⟩
    exact toLastBacktick?_append payload unticked

theorem length_eq_zero_of_not_hasClause {c : Char} {rest front tail : Text}
    (absent : ¬ HasClause lead rest) (same : c :: rest = front ++ (lead ++ tail))
    (ticked : backtick ∈ tail) : front.length = 0 := by
  cases front with
  | nil => rfl
  | cons d front =>
      obtain ⟨-, rfl⟩ := List.cons.inj same
      exact absurd ((hasClause_append ticked).mono (List.suffix_append _ _).isInfix) absent

theorem lastClause_of_clauseInLine? (found : clauseInLine? lead line = some (before, payload)) :
    LastClause lead line before payload := by
  induction line generalizing before with
  | nil => cases found
  | cons c rest ih =>
      unfold clauseInLine? at found
      split at found
      · next inside =>
          cases found
          obtain ⟨⟨after, same, unticked⟩, last⟩ := ih inside
          refine ⟨⟨after, by rw [same, List.cons_append], unticked⟩, ?_⟩
          intro front tail split ticked
          cases front with
          | nil => exact Nat.zero_le _
          | cons d front =>
              obtain ⟨-, split⟩ := List.cons.inj split
              exact Nat.succ_le_succ (last front tail split ticked)
      · next absent =>
          rw [clauseInLine?_eq_none_iff] at absent
          split at found
          · next behind here =>
              obtain ⟨payload, ends, same⟩ := Option.map_eq_some_iff.mp found
              cases same
              obtain ⟨after, rfl, unticked⟩ := toLastBacktick?_eq_some_iff.mp ends
              refine ⟨⟨after, ?_, unticked⟩, fun front tail split ticked => ?_⟩
              · exact (List.isPrefixOf?_eq_some_iff_append_eq.mp here).symm
              · exact (length_eq_zero_of_not_hasClause absent split ticked).le
          · cases found

theorem clauseInLine?_of_lastClause (nonempty : lead ≠ [])
    (clause : LastClause lead line before payload) :
    clauseInLine? lead line = some (before, payload) := by
  induction line generalizing before with
  | nil =>
      obtain ⟨after, same, -⟩ := clause.found
      exact absurd (List.append_eq_nil_iff.mp (List.append_eq_nil_iff.mp same.symm).2).1 nonempty
  | cons c rest ih =>
      obtain ⟨⟨after, same, unticked⟩, last⟩ := clause
      cases before with
      | nil =>
          have none : clauseInLine? lead rest = none := by
            rw [clauseInLine?_eq_none_iff, hasClause_iff]
            rintro ⟨_, tail, rfl, ⟨front, between, rfl⟩, ticked⟩
            have sooner := last (c :: front) (between ++ tail) (by simp) (by simp [ticked])
            cases sooner
          have here : lead.isPrefixOf? (c :: rest) = some (payload ++ backtick :: after) := by
            rw [same, List.nil_append, Text.isPrefixOf?_append]
          simp only [clauseInLine?, none, here, toLastBacktick?_append payload unticked,
            Option.map_some]
      | cons d before =>
          obtain ⟨rfl, inRest⟩ := List.cons.inj same
          have inside : LastClause lead rest before payload :=
            ⟨⟨after, inRest, unticked⟩, fun front tail split ticked =>
              Nat.le_of_succ_le_succ
                (last (c :: front) tail (by rw [split, List.cons_append]) ticked)⟩
          simp only [clauseInLine?, ih inside]

theorem clauseInLine?_eq_some_iff (nonempty : lead ≠ []) :
    clauseInLine? lead line = some (before, payload) ↔ LastClause lead line before payload :=
  ⟨lastClause_of_clauseInLine?, clauseInLine?_of_lastClause nonempty⟩

theorem extract_eq_iff (nonempty : lead ≠ []) {text : Text} {outcome : Text × Option Text} :
    extract lead text = outcome ↔ ClauseReading lead text outcome := by
  constructor
  · rintro rfl
    unfold extract
    split
    · next before payload found =>
        obtain ⟨front, line, back, split, here, first⟩ := List.findSome?_eq_some_iff.mp found
        exact .found split (fun other member => clauseInLine?_eq_none_iff.mp (first other member))
          ((clauseInLine?_eq_some_iff nonempty).mp here)
    · next none =>
        rw [List.findSome?_eq_none_iff] at none
        exact .absent fun line member => clauseInLine?_eq_none_iff.mp (none line member)
  · intro reading
    unfold extract
    cases reading with
    | absent nowhere =>
        rw [List.findSome?_eq_none_iff.mpr fun line member =>
          clauseInLine?_eq_none_iff.mpr (nowhere line member)]
    | found split first clause =>
        rw [List.findSome?_eq_some_iff.mpr ⟨_, _, _, split,
          (clauseInLine?_eq_some_iff nonempty).mpr clause,
          fun other member => clauseInLine?_eq_none_iff.mpr (first other member)⟩]

/-! ### The pattern of a clause -/

theorem toLastBacktick?_eq_lastAt? (text : Text) :
    toLastBacktick? text =
      (Text.lastAt? (fun rest => [backtick].isPrefixOf? rest) text).map (·.1) := by
  induction text with
  | nil => rfl
  | cons c rest ih =>
      rw [toLastBacktick?, Text.lastAt?, ih]
      cases Text.lastAt? (fun rest => [backtick].isPrefixOf? rest) rest with
      | some found => rfl
      | none =>
          by_cases tick : c = backtick
          · simp [tick, List.isPrefixOf?]
          · have other : (backtick == c) = false := by simpa using Ne.symm tick
            simp [tick, other, List.isPrefixOf?]

theorem clauseInLine?_eq_lastAt? (lead line : Text) :
    clauseInLine? lead line =
      Text.lastAt? (fun rest => (lead.isPrefixOf? rest).bind toLastBacktick?) line := by
  induction line with
  | nil => cases lead <;> rfl
  | cons c rest ih =>
      rw [clauseInLine?, Text.lastAt?, ← ih]
      cases clauseInLine? lead rest with
      | some found => rfl
      | none => cases lead.isPrefixOf? (c :: rest) <;> rfl

namespace Grammar

open Pattern

theorem within_inLine (single : '\n' ∉ line) : ∀ c ∈ line, (c != '\n') = true := by
  intro c member
  rw [bne_iff_ne]
  rintro rfl
  exact single member

theorem stops_inLine (others : List Text) :
    ∀ c ∈ (Text.behind others).head?, (c != '\n') = false := by
  intro c first
  cases others with
  | nil => cases first
  | cons line rest =>
      cases first
      rfl

/-- The payload goes to the last backtick of its line. -/
theorem groups_payload (single : '\n' ∉ line) (others : List Text) :
    ((both (group 2 inLine) (word [backtick])).first? true (line ++ Text.behind others)).map
        (·.groups) = (toLastBacktick? line).map fun payload => [(2, payload)] := by
  have ends : (fun rest => ((word [backtick]).first? true (rest ++ Text.behind others)).map
      (·.groups)) = fun rest => ([backtick].isPrefixOf? rest).map fun _ => [] := by
    funext rest
    rw [first?_word, Text.isPrefixOf?_append_behind (by decide), Option.map_map, Option.map_map]
    rfl
  refine (groups_run_both 2 rfl (within_inLine single) (stops_inLine others)).trans ?_
  rw [ends, Text.lastAt?_map, toLastBacktick?_eq_lastAt?, Option.map_map, Option.map_map]
  rfl

/-- What is taken in front of the lead goes to the last one that has a payload. -/
theorem groups_clause (leadSingle : '\n' ∉ lead) (single : '\n' ∉ line) (others : List Text) :
    ((clause lead).first? true (line ++ Text.behind others)).map (·.groups) =
      (clauseInLine? lead line).map fun clause => [(2, clause.2), (1, clause.1)] := by
  have next (rest : Text) (isTail : rest <:+ line) :
      ((both (word lead) (both (group 2 inLine) (word [backtick]))).first? true
        (rest ++ Text.behind others)).map (·.groups) =
        ((lead.isPrefixOf? rest).bind toLastBacktick?).map fun payload => [(2, payload)] := by
    rw [first?_word_both lead rfl, Text.isPrefixOf?_append_behind leadSingle]
    cases here : lead.isPrefixOf? rest with
    | none => rfl
    | some after =>
        have inLine : '\n' ∉ after := by
          rw [← List.isPrefixOf?_eq_some_iff_append_eq.mp here] at isTail
          exact fun member => single (isTail.mem (List.mem_append_right lead member))
        rw [Option.map_some, Option.bind_some, Option.bind_some, ← groups_payload inLine others,
          Option.map_map]
        rfl
  refine (groups_run_both 1 rfl (within_inLine single) (stops_inLine others)).trans ?_
  rw [Text.lastAt?_congr next, Text.lastAt?_map, ← clauseInLine?_eq_lastAt?, Option.map_map]
  rfl

theorem clause_goesByLine (leadSingle : '\n' ∉ lead) : (clause lead).GoesByLine := by
  refine goesByLine_of_reads rfl
    (fun line others single => groups_clause leadSingle single others) fun c line _ none => ?_
  rw [Option.map_eq_none_iff, clauseInLine?_eq_none_iff] at none ⊢
  exact fun found => none (found.mono (List.suffix_cons c line).isInfix)

theorem extract_eq (leadSingle : '\n' ∉ lead) (text : Text) :
    Grammar.extract lead text = Comment.extract lead text := by
  have searched := search_eq_firstLine? (clause_goesByLine leadSingle)
    (fun line others single => groups_clause leadSingle single others) text
  rw [Text.firstLine?_eq_findSome? fun line => (clauseInLine? lead line).map fun clause =>
    [(2, clause.2), (1, clause.1)]] at searched
  have mapped := List.map_findSome? (f := clauseInLine? lead)
    (g := fun clause => [(2, clause.2), (1, clause.1)]) (l := Text.lines text)
  rw [Function.comp_def, ← searched] at mapped
  unfold Grammar.extract Comment.extract
  cases found : (Text.lines text).findSome? (clauseInLine? lead) with
  | none =>
      rw [found] at mapped
      rw [Option.map_eq_none_iff.mp mapped.symm]
  | some clause =>
      rw [found] at mapped
      obtain ⟨found, here, groups⟩ := Option.map_eq_some_iff.mp mapped.symm
      rw [here]
      simp only [Match.group?, groups]
      rfl

end Grammar

theorem reading_absent_iff {text : Text} :
    ClauseReading lead text (text, none) ↔ ∀ line ∈ Text.lines text, ¬ HasClause lead line := by
  constructor
  · intro reading
    cases reading with
    | absent nowhere => exact nowhere
  · exact .absent

/-- Each pass that reads a single clause answers as the search for its pattern does.  It answers
the text where no line has a clause; otherwise it takes, on the first line that has one, the last
lead that a backtick follows. -/
theorem extract_last_clause (text : Text) :
    let reads (lead : Text) (pass : Text → Text × Option Text) : Prop :=
      Grammar.extract lead text = pass text ∧
        (pass text = (text, none) ↔ ∀ line ∈ Text.lines text, ¬ HasClause lead line) ∧
        ∀ outcome, pass text = outcome ↔ ClauseReading lead text outcome
    reads defaultLead extractDefault ∧ reads typeLead extractType ∧
      reads exampleLead extractExample := by
  intro reads
  have each (lead : Text) (nonempty : lead ≠ []) (single : '\n' ∉ lead) :
      reads lead (extract lead) :=
    ⟨Grammar.extract_eq single text, (extract_eq_iff nonempty).trans reading_absent_iff,
      fun _ => extract_eq_iff nonempty⟩
  exact ⟨each defaultLead (by decide) (by decide), each typeLead (by decide) (by decide),
    each exampleLead (by decide) (by decide)⟩

end CommentSchema.Comment
