import CommentSchema.Proofs.Clause
import CommentSchema.Proofs.MarkerLine
import Mathlib.Data.List.Forall2

/-! Enum blocks are cut out line by line.  A comment has a block exactly when a header stands in
it with bullets right below it, the lines before the header being no headers and the line behind
the last bullet being none; the lines around the block remain and its values are those of the
bullets in their order.  A comment without a header has no block, and any other one is refused. -/

namespace CommentSchema.Comment.EnumBlock

def bulletOf (value : Text) : Text := bulletLead ++ (value ++ [backtick])

/-- A line for a value: its bullet between blanks, perhaps with a colon and any text behind it. -/
structure Lists (value line : Text) : Prop where
  nonempty : value ≠ []
  unticked : backtick ∉ value
  bullet : Text.Padded (bulletOf value) line ∨
    ∃ explanation, Text.Padded (bulletOf value ++ ':' :: explanation) line

/-- A comment with an enum block, what the block lists, and the lines around it. -/
inductive Splices (values : List Text) : (remaining comment : Text) → Prop where
  | intro {before bullets after : List Text} {header : Text}
      (lines : ∀ line ∈ before ++ header :: (bullets ++ after), '\n' ∉ line)
      (plain : ∀ line ∈ before, isHeader line = false)
      (heads : ∃ words ∈ headers, Text.Padded words header)
      (nonempty : values ≠ []) (listed : List.Forall₂ Lists values bullets)
      (ends : ∀ line ∈ after.head?, isBullet line = false) :
      Splices values (Text.unlines (before ++ after))
        (Text.unlines (before ++ header :: (bullets ++ after)))

theorem isHeader_iff {line : Text} :
    isHeader line = true ↔ ∃ words ∈ headers, Text.Padded words line := by
  rw [isHeader, List.contains_iff_mem]
  constructor
  · exact fun member => ⟨_, member, Text.padded_trim line⟩
  · intro heads
    obtain ⟨words, member, padded⟩ := heads
    have trimmed : ∀ words ∈ headers, words ≠ [] ∧ Text.trim words = words := by decide
    have firm := Text.firm_of_trim_eq (trimmed words member).1 (trimmed words member).2
    rwa [firm.trim_of_padded padded]

theorem bulletValue?_eq_some {bullet value : Text} (found : bulletValue? bullet = some value) :
    value ≠ [] ∧ backtick ∉ value ∧
      (bullet = bulletOf value ∨ ∃ explanation, bullet = bulletOf value ++ ':' :: explanation) := by
  unfold bulletValue? at found
  split at found
  · cases found
  · next rest lead =>
      have whole := List.isPrefixOf?_eq_some_iff_append_eq.mp lead
      dsimp only at found
      split at found
      · next c full behind =>
          cases found
          have same := takeWhile_append_tick behind
          refine ⟨by simpa using full, unticked_takeWhile rest, .inl ?_⟩
          rw [bulletOf, ← whole]
          exact congrArg _ same.symm
      · next c explanation full behind =>
          cases found
          have same := takeWhile_append_tick behind
          refine ⟨by simpa using full, unticked_takeWhile rest, .inr ⟨explanation, ?_⟩⟩
          rw [bulletOf, ← whole, List.append_assoc, List.append_assoc]
          exact congrArg _ same.symm
      · cases found

theorem bulletValue?_bulletOf {value after : Text} (nonempty : value ≠ [])
    (unticked : backtick ∉ value) (ends : after = [] ∨ ∃ explanation, after = ':' :: explanation) :
    bulletValue? (bulletOf value ++ after) = some value := by
  have full : value.isEmpty = false := by simpa using nonempty
  have whole : bulletOf value ++ after = bulletLead ++ (value ++ backtick :: after) := by
    simp [bulletOf]
  have read : (value ++ backtick :: after).takeWhile (· != '\x60') = value :=
    takeWhile_unticked unticked after
  simp only [bulletValue?, whole, Text.isPrefixOf?_append, read, full, List.drop_left]
  rcases ends with rfl | ⟨explanation, rfl⟩
  · rfl
  · rfl

theorem bulletValue?_trim_iff {line value : Text} :
    bulletValue? (Text.trim line) = some value ↔ Lists value line := by
  constructor
  · intro found
    obtain ⟨nonempty, unticked, bullet⟩ := bulletValue?_eq_some found
    refine ⟨nonempty, unticked, bullet.imp (fun same => ?_) fun explained => ?_⟩
    · exact same ▸ Text.padded_trim line
    · obtain ⟨explanation, same⟩ := explained
      exact ⟨explanation, same ▸ Text.padded_trim line⟩
  · intro lists
    have firm : Text.Firm (bulletOf value) :=
      ⟨⟨'-', _, rfl, by decide⟩, ⟨bulletLead ++ value, backtick, by simp [bulletOf], by decide⟩⟩
    rcases lists.bullet with padded | ⟨explanation, front, back, rfl, blank⟩
    · rw [firm.trim_of_padded padded]
      simpa using bulletValue?_bulletOf lists.nonempty lists.unticked (.inl rfl)
    · have colon : Text.Firm (bulletOf value ++ [':']) := firm.append ⟨[], ':', rfl, by decide⟩
      have trimmed := colon.trim_append (List.forall_mem_append.mp blank).1 (explanation ++ back)
      rw [List.append_assoc, List.append_assoc] at trimmed
      rw [List.append_assoc, List.cons_append]
      refine (congrArg bulletValue? trimmed).trans ?_
      exact bulletValue?_bulletOf lists.nonempty lists.unticked (.inr ⟨_, rfl⟩)

theorem line_of_lists {line value : Text} (lists : Lists value line) (unbroken : '\n' ∉ line) :
    '\n' ∉ value := by
  have inside : value <:+: line := by
    rcases lists.bullet with ⟨front, back, rfl, -⟩ | ⟨explanation, front, back, rfl, -⟩
    · exact ⟨front ++ bulletLead, backtick :: back, by simp [bulletOf]⟩
    · exact ⟨front ++ bulletLead, backtick :: ':' :: (explanation ++ back), by simp [bulletOf]⟩
  exact fun member => unbroken (inside.mem member)

theorem isBullet_of_lists {line value : Text} (lists : Lists value line) :
    isBullet line = true := by
  obtain ⟨-, -, same | ⟨explanation, same⟩⟩ :=
    bulletValue?_eq_some (bulletValue?_trim_iff.mpr lists)
  all_goals
    rw [isBullet, same]
    rfl

theorem forall_mem_isBullet {values lines : List Text}
    (each : List.Forall₂ Lists values lines) : ∀ line ∈ lines, isBullet line = true := by
  induction each with
  | nil => exact List.forall_mem_nil _
  | cons lists _ ih => exact List.forall_mem_cons.mpr ⟨isBullet_of_lists lists, ih⟩

theorem forall_mem_line {values lines : List Text} (each : List.Forall₂ Lists values lines)
    (unbroken : ∀ line ∈ lines, '\n' ∉ line) : ∀ value ∈ values, '\n' ∉ value := by
  induction each with
  | nil => exact List.forall_mem_nil _
  | cons lists _ ih =>
      rw [List.forall_mem_cons] at unbroken
      exact List.forall_mem_cons.mpr ⟨line_of_lists lists unbroken.1, ih unbroken.2⟩

theorem values_eq_ok_iff {lines found : List Text} :
    values lines = .ok found ↔ List.Forall₂ Lists found lines := by
  induction lines generalizing found with
  | nil => simp [values, List.forall₂_nil_right_iff, eq_comm]
  | cons line rest ih =>
      rw [List.forall₂_cons_right_iff]
      simp only [values, ← bulletValue?_trim_iff]
      cases bulletValue? (Text.trim line) with
      | none => simp
      | some value =>
          simp only [Error.map_eq_ok, ih, Option.some.injEq]
          constructor
          · intro read
            obtain ⟨others, each, rfl⟩ := read
            exact ⟨value, others, rfl, each, rfl⟩
          · intro read
            obtain ⟨_, others, rfl, each, rfl⟩ := read
            exact ⟨others, each, rfl⟩

theorem values_eq_error {lines : List Text} {fault : CommentError}
    (refused : values lines = .error fault) :
    ∃ bullet, fault = ⟨.bulletMalformed bullet, [], some bullet⟩ := by
  induction lines with
  | nil => cases refused
  | cons line rest ih =>
      simp only [values] at refused
      split at refused
      · cases refused
        exact ⟨_, rfl⟩
      · exact ih (Error.map_eq_error.mp refused)

section

variable {comment remaining : Text} {listed : List Text}

theorem find_of_splices (splices : Splices listed remaining comment) :
    find comment = .ok (some (⟨remaining, sentenceOf listed⟩, listed)) := by
  cases splices with
  | @intro before bullets after header lines plain heads nonempty each ends =>
      have inside := forall_mem_isBullet each
      have stops : after.takeWhile isBullet = [] ∧ after.dropWhile isBullet = after := by
        cases after with
        | nil => exact ⟨rfl, rfl⟩
        | cons line rest => simp [ends line rfl]
      have taken : (bullets ++ after).takeWhile isBullet = bullets := by
        rw [List.takeWhile_append_of_pos inside, stops.1, List.append_nil]
      have dropped : (bullets ++ after).dropWhile isBullet = after := by
        rw [List.dropWhile_append_of_pos inside, stops.2]
      have full : listed.isEmpty = false := by simpa using nonempty
      unfold find
      rw [Text.lines_unlines (by simp) lines, splitHeader?_append plain (isHeader_iff.mpr heads)]
      simp only [taken, dropped, values_eq_ok_iff.mpr each, Error.ok_bind, full]
      rfl

theorem splices_of_find {block : EnumBlock} (found : find comment = .ok (some (block, listed))) :
    Splices listed block.remaining comment := by
  unfold find at found
  split at found
  · cases found
  · next before header after split =>
      obtain ⟨whole, heads, plain⟩ := splitHeader?_eq_some split
      obtain ⟨read, each, found⟩ := Error.bind_eq_ok.mp found
      split at found
      · cases found
      · next full =>
          cases found
          have parts := List.takeWhile_append_dropWhile (p := isBullet) (l := after)
          have lines : ∀ line ∈ Text.lines comment, '\n' ∉ line :=
            fun line member => Text.not_mem_of_mem_split member
          have same : comment = Text.unlines (before ++ header ::
              (after.takeWhile isBullet ++ after.dropWhile isBullet)) := by
            rw [parts, ← whole, Text.unlines_lines]
          rw [whole, ← parts] at lines
          rw [same]
          refine .intro lines plain (isHeader_iff.mp heads) (by simpa using full)
            (values_eq_ok_iff.mp each) fun line first => ?_
          have stops := List.head?_dropWhile_not isBullet after
          rw [Option.mem_def.mp first] at stops
          exact stops

theorem line_of_splices (splices : Splices listed remaining comment) :
    ∀ value ∈ listed, '\n' ∉ value := by
  cases splices with
  | @intro before bullets after header lines plain heads nonempty each ends =>
      exact forall_mem_line each fun line inside => lines line (by simp [inside])

theorem find_eq_none_iff :
    find comment = .ok none ↔ ∀ line ∈ Text.lines comment, isHeader line = false := by
  constructor
  · intro none
    refine not_isHeader_of_splitHeader?_eq_none ?_
    unfold find at none
    split at none
    · assumption
    · obtain ⟨read, -, none⟩ := Error.bind_eq_ok.mp none
      split at none <;> cases none
  · intro plain
    rw [find, splitHeader?_eq_none plain]

theorem find_eq_error {fault : CommentError} (refused : find comment = .error fault) :
    (∃ bullet, fault = ⟨.bulletMalformed bullet, [], some bullet⟩) ∨
      ∃ header, fault = ⟨.blockEmpty (Text.trim header), [], some header⟩ := by
  unfold find at refused
  split at refused
  · cases refused
  · rcases Error.bind_eq_error.mp refused with unread | ⟨read, -, unlisted⟩
    · exact .inl (values_eq_error unread)
    · split at unlisted
      · cases unlisted
        exact .inr ⟨_, rfl⟩
      · cases unlisted

theorem category_of_find {fault : CommentError} (refused : find comment = .error fault) :
    fault.problem.category = .enumeration := by
  rcases find_eq_error refused with ⟨bullet, rfl⟩ | ⟨header, rfl⟩
  · rfl
  · rfl

theorem field_of_find {fault : CommentError} (refused : find comment = .error fault) :
    fault.field = [] := by
  rcases find_eq_error refused with ⟨bullet, rfl⟩ | ⟨header, rfl⟩
  · rfl
  · rfl

end

/-- A block in a comment is cut out: the lines around it remain, a sentence lists its values in
their order, and the definition takes them over if and only if it has no list of its own.  Nothing
is cut out of any other comment: one without a header passes, and one with a header is refused,
and what has been read of it by then leaves no trace in the definition. -/
theorem apply_splices (definition : Definition) (comment : Text) :
    (∀ listed remaining, Splices listed remaining comment →
      apply definition comment =
        .ok ({ definition with enum := definition.enum.or (some (listed.map .str)) },
          some ⟨remaining, sentenceOf listed⟩)) ∧
    (∀ changed block, apply definition comment = .ok (changed, some block) →
      ∃ listed remaining, Splices listed remaining comment) ∧
    (∀ kept, apply definition comment = .ok (kept, none) ↔
      kept = definition ∧ ∀ line ∈ Text.lines comment, isHeader line = false) ∧
    ∀ error, apply definition comment = .error error →
      (∃ fault, error = .comment fault ∧ fault.problem.category = .enumeration) ∧
      ∀ desk : Desk, desk.work = definition →
        Work.handOut (fun work => .lift (apply work comment)) desk = (desk, .fail error) := by
  have none_iff := @find_eq_none_iff comment
  refine ⟨fun listed remaining splices => ?_, fun changed block answered => ?_, fun kept => ?_,
    fun error failed => ⟨?_, fun desk same => ?_⟩⟩
  · unfold apply
    rw [find_of_splices splices]
    cases definition.enum <;> simp
  · unfold apply at answered
    split at answered
    · cases answered
    · cases answered
    · next found =>
        exact ⟨_, _, splices_of_find found⟩
  · rw [← none_iff]
    unfold apply
    cases find comment with
    | error fault => simp
    | ok found? => cases found? <;> simp [eq_comm]
  · unfold apply at failed
    split at failed
    · next refused =>
        cases failed
        exact ⟨_, rfl, category_of_find refused⟩
    · cases failed
    · cases failed
  · rw [Work.handOut, same, Run.lift, failed]
    rfl

def blockComment : Text :=
  "A is x.\n Possible values are: \n  - \x60fast\x60: go fast.\n- \x60slow\x60\nMore.".toList

theorem blockComment_splices :
    Splices ["fast".toList, "slow".toList] "A is x.\nMore.".toList blockComment := by
  have whole : blockComment = Text.unlines (["A is x.".toList] ++ " Possible values are: ".toList ::
      (["  - \x60fast\x60: go fast.".toList, "- \x60slow\x60".toList] ++ ["More.".toList])) := by
    decide
  have first : Lists "fast".toList "  - \x60fast\x60: go fast.".toList :=
    ⟨by decide, by decide,
      .inr ⟨" go fast.".toList, "  ".toList, [], by decide, List.all_eq_true.mp (by decide)⟩⟩
  have second : Lists "slow".toList "- \x60slow\x60".toList :=
    ⟨by decide, by decide, .inl ⟨[], [], by decide, List.all_eq_true.mp (by decide)⟩⟩
  have remains : "A is x.\nMore.".toList =
      Text.unlines (["A is x.".toList] ++ ["More.".toList]) := by decide
  rw [whole, remains]
  exact .intro (by decide) (by decide) (isHeader_iff.mp (by decide)) (by decide)
    (.cons first (.cons second .nil)) (by decide)

/-- The second bullet has no value in backticks. -/
def brokenComment : Text := "Possible values:\n- \x60fast\x60\n- slow".toList

theorem apply_splices_explainedValue :
    Splices ["fast".toList, "slow".toList] "A is x.\nMore.".toList blockComment ∧
      apply { type := some "string".toList } blockComment =
        .ok ({ type := some "string".toList
               enum := some [.str "fast".toList, .str "slow".toList] },
          some ⟨"A is x.\nMore.".toList,
            "Possible values are \x60fast\x60, \x60slow\x60.".toList⟩) ∧
      (apply { enum := some [] } blockComment).map (·.1.enum) = .ok (some []) ∧
      Work.handOut (fun work => .lift (apply work brokenComment)) ⟨{}, {}⟩ =
        (⟨{}, {}⟩, .fail (.comment ⟨.bulletMalformed "- slow".toList, [],
          some "- slow".toList⟩)) := by
  have typed := (apply_splices { type := some "string".toList } blockComment).1 _ _
    blockComment_splices
  have listed := (apply_splices { enum := some [] } blockComment).1 _ _ blockComment_splices
  obtain ⟨-, -, -, refused⟩ := apply_splices {} brokenComment
  refine ⟨blockComment_splices, typed, ?_, (refused _ ?_).2 ⟨{}, {}⟩ rfl⟩
  · rw [listed]
    rfl
  · rfl

end CommentSchema.Comment.EnumBlock
