import CommentSchema.Comment.Grammar
import CommentSchema.Proofs.Text.Pattern
import CommentSchema.Proofs.Text.Trimming
import Mathlib.Data.List.Forall2

/-! Marker lines and the lines of a comment.  The pattern of a marker line takes the line with
the line feed behind it, so the lines that are no markers stay as they are; only where marker
lines end the comment, a line feed is left over, and trimming takes it. -/

namespace CommentSchema

namespace Text

variable {word text : Text}

/-- What is left of a text when the word is taken out wherever it begins, from the left. -/
inductive Erases (word : Text) : Text → Text → Prop
  | nil : Erases word [] []
  | found {text rest : Text} (behind : Erases word text rest) : Erases word (word ++ text) rest
  | kept {c : Char} {text rest : Text} (absent : ¬ word <+: c :: text)
      (behind : Erases word text rest) : Erases word (c :: text) (c :: rest)

theorem erases_erase (nonempty : word ≠ []) (text : Text) : Erases word text (erase word text) := by
  induction text using eraseInduction nonempty with
  | nil => exact .nil
  | erased rest ih =>
      rw [erase_append nonempty]
      exact .found ih
  | kept c rest absent ih =>
      rw [erase_cons_of_absent absent]
      exact .kept absent ih

theorem erases_iff (nonempty : word ≠ []) {rest : Text} :
    Erases word text rest ↔ erase word text = rest := by
  constructor
  · intro erases
    induction erases with
    | nil => rfl
    | found behind ih => rw [erase_append nonempty, ih]
    | kept absent behind ih => rw [erase_cons_of_absent absent, ih]
  · rintro rfl
    exact erases_erase nonempty text

/-! ### Line feeds -/

theorem erase_append_feeds (nonempty : word ≠ []) (single : '\n' ∉ word) (text : Text)
    (count : Nat) :
    erase word (text ++ List.replicate count '\n') =
      erase word text ++ List.replicate count '\n' := by
  have untouched (count : Nat) :
      erase word (List.replicate count '\n') = List.replicate count '\n' := by
    obtain ⟨c, rest, rfl⟩ := List.exists_cons_of_ne_nil nonempty
    refine erase_of_not_infix (not_infix_of_not_mem List.mem_cons_self fun member => single ?_)
    rw [(List.mem_replicate.mp member).2]
    exact List.mem_cons_self
  cases count with
  | zero => simp
  | succ count =>
      rw [List.replicate_succ, erase_append_cons nonempty single, untouched]

theorem erase_unlines (nonempty : word ≠ []) (single : '\n' ∉ word) (lines : List Text) :
    erase word (unlines lines) = unlines (lines.map (erase word)) := by
  induction lines with
  | nil => rfl
  | cons line rest ih =>
      cases rest with
      | nil => rfl
      | cons next others =>
          rw [unlines_cons_cons, erase_append_cons nonempty single, ih]
          exact (unlines_cons_cons _ _ _).symm

/-- Every line feed becomes a space. -/
theorem substitute_unlines_append {lines : List Text} (each : ∀ line ∈ lines, '\n' ∉ line)
    (count : Nat) :
    substitute ['\n'] [' '] (unlines lines ++ List.replicate count '\n') =
      join [' '] lines ++ List.replicate count ' ' := by
  rw [substitute_singleton, List.map_append, List.map_replicate, if_pos rfl,
    List.append_left_inj]
  induction lines with
  | nil => rfl
  | cons line rest ih =>
      rw [List.forall_mem_cons] at each
      have kept : line.map (fun c => if c = '\n' then ' ' else c) = line := by
        conv => rhs; rw [← List.map_id line]
        refine List.map_congr_left fun c member => if_neg fun same => ?_
        exact each.1 (same ▸ member)
      cases rest with
      | nil => exact kept
      | cons next others =>
          rw [unlines_cons_cons, List.map_append, List.map_cons, if_pos rfl, ih each.2, kept,
            join_cons _ line (by simp), List.append_assoc, List.singleton_append]

end Text

namespace Comment

variable {comment line : Text} {others : List Text}

namespace Grammar

open Pattern

/-- A word takes a whole line where what follows it ends the line. -/
theorem first?_word_line {ending : Pattern} {word : Text} {last : Match} {fresh : Bool}
    (placeless : ending.placeless) (wordSingle : '\n' ∉ word) (single : '\n' ∉ line)
    (ends : ∀ after, '\n' ∉ after → ending.first? true (after ++ Text.behind others) =
      if after = [] then some last else none) :
    (both (.word word) ending).first? fresh (line ++ Text.behind others) =
      if line = word then some ⟨line ++ last.taken, last.groups, last.rest⟩ else none := by
  rw [first?_word_both word placeless, Text.isPrefixOf?_append_behind wordSingle]
  cases found : word.isPrefixOf? line with
  | some after =>
      obtain rfl := List.isPrefixOf?_eq_some_iff_append_eq.mp found
      have inside : '\n' ∉ after := fun member => single (List.mem_append_right word member)
      rw [Option.map_some, Option.bind_some, ends after inside]
      by_cases whole : after = []
      · simp [whole]
      · simp [whole]
  | none =>
      have other : line ≠ word := by
        rintro rfl
        have begins := Text.isPrefixOf?_append line []
        rw [List.append_nil, found] at begins
        cases begins
      rw [if_neg other]
      rfl

theorem first?_lineEnd {after : Text} (single : '\n' ∉ after) :
    lineEnd.first? true (after ++ Text.behind others) =
      if after = [] then some (.nothing (Text.behind others)) else none := by
  cases after with
  | nil => cases others <;> rfl
  | cons c rest =>
      have inside : (c == '\n') = false :=
        beq_eq_false_iff_ne.mpr fun same => single (same ▸ List.mem_cons_self)
      simp [first?, offers, inside]

theorem first?_feed {after : Text} (single : '\n' ∉ after) :
    (either (word ['\n']) lineEnd).first? true (after ++ Text.behind others) =
      if after = [] then some ⟨Text.feed others, [], Text.unlines others⟩ else none := by
  rw [first?_either, first?_lineEnd single, first?_word]
  cases after with
  | nil => cases others <;> rfl
  | cons c rest =>
      have inside : '\n' ≠ c := fun same => single (same ▸ List.mem_cons_self)
      simp [List.isPrefixOf?, inside]

/-! ### Required fields -/

theorem first?_wholeLine {word : Text} (wordSingle : '\n' ∉ word) (single : '\n' ∉ line) :
    (wholeLine word).first? true (line ++ Text.behind others) =
      if line = word then some ⟨line, [], Text.behind others⟩ else none := by
  rw [wholeLine, first?_lineStart_both, if_pos rfl,
    first?_word_line rfl wordSingle single fun after => first?_lineEnd]
  simp [Match.nothing]

theorem isSome_search_wholeLine {word : Text} (single : '\n' ∉ word) (comment : Text) :
    ((wholeLine word).search comment).isSome = (Text.lines comment).any (· == word) := by
  have reads (line : Text) (others : List Text) (within : '\n' ∉ line) :
      ((wholeLine word).first? true (line ++ Text.behind others)).map (·.taken) =
        if line = word then some line else none := by
    rw [first?_wholeLine single within]
    split <;> rfl
  have byLine : (wholeLine word).GoesByLine := goesByLine_lineStart _
  have searched := search_eq_firstLine? byLine reads comment
  rw [Text.firstLine?_eq_findSome? fun line => if line = word then some line else none] at searched
  rw [← Option.isSome_map, searched, List.isSome_findSome?]
  congr 1
  funext line
  split
  · next same => simp [same]
  · next other => simp [other]

theorem isRequired_eq (comment : Text) :
    Grammar.isRequired comment = Comment.isRequired comment := by
  rw [Grammar.isRequired, isSome_search_wholeLine (by decide), isSome_search_wholeLine (by decide),
    Bool.eq_iff_iff]
  simp only [Comment.isRequired, demandsField, Bool.or_eq_true, List.any_eq_true, and_or_left,
    exists_or]

/-! ### Marker lines -/

theorem first?_markerLine (single : '\n' ∉ line) :
    markerLine.first? true (line ++ Text.behind others) =
      if isMarker line then some ⟨line ++ Text.feed others, [], Text.unlines others⟩ else none := by
  have each (word : Text) (wordSingle : '\n' ∉ word) :
      (both (.word word) (either (.word ['\n']) lineEnd)).first? true (line ++ Text.behind others) =
        if line = word then some ⟨line ++ Text.feed others, [], Text.unlines others⟩ else none :=
    first?_word_line rfl wordSingle single fun after => first?_feed
  rw [markerLine, first?_lineStart_both, if_pos rfl, first?_either_both, first?_either_both,
    each _ (by decide), each _ (by decide), each _ (by decide)]
  have marker : isMarker line = true ↔ (line = requiredMark ∨ line = requiredWord) ∨
      line = optionalMark := by simp only [isMarker, demandsField, Bool.or_eq_true, beq_iff_eq]
  by_cases required : line = requiredMark
  · rw [if_pos required, if_pos (marker.mpr (.inl (.inl required))), Option.some_or]
  · rw [if_neg required, Option.none_or]
    by_cases optional : line = optionalMark
    · rw [if_pos optional, if_pos (marker.mpr (.inr optional)), Option.some_or]
    · rw [if_neg optional, Option.none_or]
      simp only [marker, required, optional, false_or, or_false]

theorem startsLine_feed (next : Text) (rest : List Text) (others : Text) (fresh : Bool) :
    (⟨line ++ Text.feed (next :: rest), [], others⟩ : Match).startsLine fresh = true := by
  simp [Match.startsLine, Text.feed]

/-- A marker line is taken with its line feed, any other line is kept with its own. -/
theorem erase_markerLine_line (single : '\n' ∉ line) :
    markerLine.erase (line ++ Text.behind others) =
      (if isMarker line then [] else line ++ Text.feed others) ++
        markerLine.erase (Text.unlines others) := by
  have here : markerLine.first? true (line ++ Text.behind others) = _ := first?_markerLine single
  unfold erase
  rw [pieces]
  cases marker : isMarker line with
  | true =>
      rw [marker, if_pos rfl] at here
      have takes : (Text.unlines others).length < (line ++ Text.behind others).length := by
        have longer : line ≠ [] := by
          rintro rfl
          cases marker
        rw [Text.behind_eq, List.length_append, List.length_append]
        have positive := List.length_pos_of_ne_nil longer
        omega
      rw [piecesFrom_of_some here takes, if_pos rfl]
      cases others with
      | nil => simp [Text.unlines, pieces]
      | cons next rest =>
          rw [startsLine_feed]
          rfl
  | false =>
      rw [marker, if_neg Bool.false_ne_true] at here
      have byLine : markerLine.GoesByLine := goesByLine_lineStart _
      rw [piecesFrom_line byLine single here]
      simp [List.filterMap_append, List.filterMap_map, Function.comp_def]

/-- The lines that are no markers are left, and line feeds where the last lines are markers. -/
theorem erase_markerLine {lines : List Text} (each : ∀ line ∈ lines, '\n' ∉ line) :
    ∃ count, markerLine.erase (Text.unlines lines) =
      Text.unlines (lines.filter (!isMarker ·)) ++ List.replicate count '\n' := by
  have nothing : markerLine.erase [] = [] := by simp [erase, pieces]
  induction lines with
  | nil => exact ⟨0, nothing⟩
  | cons line rest ih =>
      rw [List.forall_mem_cons] at each
      obtain ⟨count, others⟩ := ih each.2
      rw [Text.unlines_cons, erase_markerLine_line each.1]
      cases marker : isMarker line with
      | true => exact ⟨count, by simpa [marker] using others⟩
      | false =>
          rw [List.filter_cons_of_pos (by simp [marker]), if_neg Bool.false_ne_true]
          cases rest with
          | nil => exact ⟨0, by simp [Text.unlines, Text.feed, nothing]⟩
          | cons next more =>
              rw [others]
              -- Where only markers follow, the line feed behind the line is left over.
              cases kept : (next :: more).filter (!isMarker ·) with
              | nil => exact ⟨count + 1, by simp [Text.unlines, Text.feed, List.replicate_succ]⟩
              | cons second final =>
                  exact ⟨count, by simp [Text.unlines_cons_cons, Text.feed]⟩

theorem stripTags_eq (comment : Text) :
    Grammar.stripTags comment = Comment.stripTags comment := by
  have each (line : Text) (member : line ∈ Text.lines comment) : '\n' ∉ line :=
    Text.not_mem_of_mem_split member
  obtain ⟨count, unmarked⟩ := erase_markerLine each
  rw [Text.unlines_lines] at unmarked
  unfold Grammar.stripTags Comment.stripTags
  simp only [unmarked]
  generalize same : (Text.lines comment).filter (!isMarker ·) = kept
  have single : ∀ piece ∈
      kept.map fun line => Text.erase optionalMark (Text.erase requiredMark line),
      '\n' ∉ piece := by
    intro piece member inside
    obtain ⟨line, isKept, rfl⟩ := List.mem_map.mp member
    rw [← same] at isKept
    exact each line (List.mem_filter.mp isKept).1
      (Text.mem_of_mem_erase (by decide) (Text.mem_of_mem_erase (by decide) inside))
  have erased : Text.erase optionalMark (Text.erase requiredMark
      (Text.unlines kept ++ List.replicate count '\n')) =
      Text.unlines (kept.map fun line => Text.erase optionalMark (Text.erase requiredMark line)) ++
        List.replicate count '\n' := by
    rw [Text.erase_append_feeds (by decide) (by decide), Text.erase_unlines (by decide) (by decide),
      Text.erase_append_feeds (by decide) (by decide), Text.erase_unlines (by decide) (by decide),
      List.map_map]
    rfl
  rw [erased, Text.substitute_unlines_append single, Text.trim_append_blank]
  intro c member
  rw [(List.mem_replicate.mp member).2]
  rfl

end Grammar

/-! ### The reading by lines -/

/-- A line without its marker words: every required mark is taken out, and then every optional
mark. -/
def Unmarked (line piece : Text) : Prop :=
  ∃ between, Text.Erases requiredMark line between ∧ Text.Erases optionalMark between piece

theorem unmarked_iff {piece : Text} :
    Unmarked line piece ↔ Text.erase optionalMark (Text.erase requiredMark line) = piece := by
  constructor
  · rintro ⟨between, required, optional⟩
    rw [(Text.erases_iff (by decide)).mp required, (Text.erases_iff (by decide)).mp optional]
  · rintro rfl
    exact ⟨_, Text.erases_erase (by decide) _, Text.erases_erase (by decide) _⟩

theorem not_isMarker_eq :
    (fun line => !isMarker line) =
      fun line => decide (line ∉ [requiredMark, optionalMark, requiredWord]) := by
  funext line
  rw [Bool.eq_iff_iff]
  simp only [isMarker, demandsField, Bool.not_eq_true', Bool.or_eq_false_iff, beq_eq_false_iff_ne,
    decide_eq_true_eq, List.mem_cons, List.not_mem_nil, or_false, not_or]
  rw [and_right_comm, and_assoc]

theorem forall₂_unmarked_iff {lines pieces : List Text} :
    List.Forall₂ Unmarked lines pieces ↔
      (lines.map fun line => Text.erase optionalMark (Text.erase requiredMark line)) = pieces := by
  rw [← List.forall₂_eq_eq_eq, List.forall₂_map_left_iff]
  have same : Unmarked = fun line piece =>
      Text.erase optionalMark (Text.erase requiredMark line) = piece := by
    funext line piece
    exact propext unmarked_iff
  rw [same]

/-- Stripping a comment of its tags goes line by line: the lines that are markers go, the others
lose their marker words, and a space stands for every line feed between them.  A field is
required where one of the lines says so and nothing else. -/
theorem stripTags_by_line (comment : Text) :
    Grammar.stripTags comment = stripTags comment ∧
      Grammar.isRequired comment = isRequired comment ∧
      (∀ description, stripTags comment = description ↔
        ∃ pieces, List.Forall₂ Unmarked ((Text.lines comment).filter
            fun line => line ∉ [requiredMark, optionalMark, requiredWord]) pieces ∧
          Text.trim (Text.join [' '] pieces) = description) ∧
      (isRequired comment ↔
        requiredMark ∈ Text.lines comment ∨ requiredWord ∈ Text.lines comment) := by
  refine ⟨Grammar.stripTags_eq comment, Grammar.isRequired_eq comment, fun description => ?_, ?_⟩
  · simp only [forall₂_unmarked_iff, exists_eq_left']
    rw [stripTags, not_isMarker_eq]
  · simp only [isRequired, demandsField, List.any_eq_true, Bool.or_eq_true, beq_iff_eq, and_or_left,
      exists_or, exists_eq_right]

end Comment

end CommentSchema
