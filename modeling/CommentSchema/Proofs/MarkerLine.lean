import CommentSchema.Proofs.Reading
import CommentSchema.Proofs.Text.Erasure
import Mathlib.Data.List.TakeWhile

/-! Marker lines are transparent.  Such a line is no header, no bullet and no part of the
description, so one more of them outside the enum block changes nothing but whether the field
is required; and a field is required if and only if some line of its comment says so. -/

namespace CommentSchema

namespace Comment

/-- The comment with one more line, in front of the line at a position or behind all of them. -/
def insertLine (position : Nat) (line comment : Text) : Text :=
  Text.unlines ((Text.lines comment).take position ++ line :: (Text.lines comment).drop position)

theorem isMarker_of_demandsField {line : Text} (demands : demandsField line) :
    isMarker line := by
  simp [isMarker, demands]

section

variable {line : Text} (marker : isMarker line)

include marker

theorem eq_mark_of_isMarker :
    line = requiredMark ∨ line = requiredWord ∨ line = optionalMark := by
  simpa [isMarker, demandsField, or_assoc] using marker

theorem not_isHeader_of_isMarker : EnumBlock.isHeader line = false := by
  rcases eq_mark_of_isMarker marker with rfl | rfl | rfl <;> decide

theorem not_isBullet_of_isMarker : EnumBlock.isBullet line = false := by
  rcases eq_mark_of_isMarker marker with rfl | rfl | rfl <;> decide

theorem line_of_isMarker : '\n' ∉ line := by
  rcases eq_mark_of_isMarker marker with rfl | rfl | rfl <;> decide

theorem demandsField_of_isMarker : demandsField line = (line != optionalMark) := by
  rcases eq_mark_of_isMarker marker with rfl | rfl | rfl <;> decide

end

theorem forall_mem_insert {holds : Text → Prop} {line : Text} {front back : List Text}
    (here : holds line) (each : ∀ other ∈ front ++ back, holds other) :
    ∀ other ∈ front ++ line :: back, holds other := by
  rw [List.forall_mem_append] at each
  exact List.forall_mem_append.mpr ⟨each.1, List.forall_mem_cons.mpr ⟨here, each.2⟩⟩

theorem isRequired_unlines {lines : List Text} (each : ∀ line ∈ lines, '\n' ∉ line) :
    isRequired (Text.unlines lines) = lines.any demandsField := by
  cases lines with
  | nil => rfl
  | cons first rest => rw [isRequired, Text.lines_unlines (by simp) each]

theorem stripTags_unlines_insert {line : Text} {front back : List Text} (marker : isMarker line)
    (each : ∀ line ∈ front ++ back, '\n' ∉ line) :
    stripTags (Text.unlines (front ++ line :: back)) =
      stripTags (Text.unlines (front ++ back)) := by
  have inserted := forall_mem_insert (line_of_isMarker marker) each
  have kept : (front ++ line :: back).filter (fun line => !isMarker line) =
      (front ++ back).filter fun line => !isMarker line := by
    simp [List.filter_append, marker]
  have fewer : stripTags (Text.unlines (front ++ back)) = Text.trim (Text.join [' ']
      (((front ++ back).filter fun line => !isMarker line).map fun line =>
        Text.erase optionalMark (Text.erase requiredMark line))) := by
    cases lines : front ++ back with
    | nil => rfl
    | cons first rest => rw [stripTags, Text.lines_unlines (by simp) (lines ▸ each)]
  rw [fewer, stripTags, Text.lines_unlines (by simp) inserted, kept]

namespace EnumBlock

variable {lines before after : List Text} {header : Text}

theorem splitHeader?_eq_none (plain : ∀ line ∈ lines, isHeader line = false) :
    splitHeader? lines = none := by
  induction lines with
  | nil => rfl
  | cons line rest ih =>
      rw [List.forall_mem_cons] at plain
      simp [splitHeader?, plain.1, ih plain.2]

theorem not_isHeader_of_splitHeader?_eq_none (none : splitHeader? lines = none) :
    ∀ line ∈ lines, isHeader line = false := by
  induction lines with
  | nil => exact List.forall_mem_nil _
  | cons line rest ih =>
      rw [splitHeader?] at none
      split at none
      · cases none
      · next plain =>
          rw [Option.map_eq_none_iff] at none
          exact List.forall_mem_cons.mpr ⟨Bool.not_eq_true _ ▸ plain, ih none⟩

theorem splitHeader?_append (plain : ∀ line ∈ before, isHeader line = false)
    (found : isHeader header) (after : List Text) :
    splitHeader? (before ++ header :: after) = some (before, header, after) := by
  induction before with
  | nil => simp [splitHeader?, found]
  | cons line rest ih =>
      rw [List.forall_mem_cons] at plain
      simp [splitHeader?, plain.1, ih plain.2]

theorem splitHeader?_eq_some (split : splitHeader? lines = some (before, header, after)) :
    lines = before ++ header :: after ∧ isHeader header ∧
      ∀ line ∈ before, isHeader line = false := by
  induction lines generalizing before with
  | nil => cases split
  | cons line rest ih =>
      rw [splitHeader?] at split
      split at split
      · next found =>
          cases split
          exact ⟨rfl, found, List.forall_mem_nil _⟩
      · next plain =>
          obtain ⟨⟨before, header, after⟩, split, same⟩ := Option.map_eq_some_iff.mp split
          cases same
          obtain ⟨rfl, found, others⟩ := ih split
          exact ⟨rfl, found, List.forall_mem_cons.mpr ⟨Bool.not_eq_true _ ▸ plain, others⟩⟩

/-- The header and the bullets of the first block among some lines, and the lines around it. -/
def dissect (lines : List Text) : Option (Text × List Text) × List Text :=
  match splitHeader? lines with
  | none => (none, lines)
  | some (before, header, after) =>
      (some (header, after.takeWhile isBullet), before ++ after.dropWhile isBullet)

theorem dissect_of_plain (plain : ∀ line ∈ lines, isHeader line = false) :
    dissect lines = (none, lines) := by
  rw [dissect, splitHeader?_eq_none plain]

theorem dissect_append (plain : ∀ line ∈ before, isHeader line = false) (found : isHeader header)
    (after : List Text) :
    dissect (before ++ header :: after) =
      (some (header, after.takeWhile isBullet), before ++ after.dropWhile isBullet) := by
  rw [dissect, splitHeader?_append plain found]

/-- What a block lists.  Without bullets, or with a malformed one, it is a problem. -/
def valuesOf : Option (Text × List Text) → Except CommentError (Option (List Text))
  | none => .ok none
  | some (header, bullets) => do
      let found ← values bullets
      if found.isEmpty then .error ⟨.blockEmpty (Text.trim header), [], some header⟩
      else .ok (some found)

theorem dissect_of_valuesOf_eq_none (listed : valuesOf (dissect lines).1 = .ok none) :
    (dissect lines).2 = lines := by
  cases split : splitHeader? lines with
  | none => rw [dissect_of_plain (not_isHeader_of_splitHeader?_eq_none split)]
  | some pieces =>
      obtain ⟨before, header, after⟩ := pieces
      rw [dissect, split, valuesOf] at listed
      obtain ⟨found, -, answered⟩ := Error.bind_eq_ok.mp listed
      split at answered <;> cases answered

/-- A new line at the position would stand between the header of the first block and its last
bullet. -/
def Encloses (lines : List Text) (position : Nat) : Prop :=
  ∃ before header after, splitHeader? lines = some (before, header, after) ∧
    before.length < position ∧ position ≤ before.length + (after.takeWhile isBullet).length

theorem not_encloses_of_length_le {position : Nat} (behind : lines.length ≤ position) :
    ¬ Encloses lines position := by
  intro encloses
  obtain ⟨before, header, after, split, -, within⟩ := encloses
  obtain ⟨rfl, -⟩ := splitHeader?_eq_some split
  have bullets := (List.takeWhile_prefix (l := after) isBullet).length_le
  simp only [List.length_append, List.length_cons] at behind
  omega

/-- The search for a block, with what it reads apart from what it leaves. -/
theorem find_eq_valuesOf (comment : Text) :
    find comment = (valuesOf (dissect (Text.lines comment)).1).map fun found? =>
      found?.map fun found =>
        (⟨Text.unlines (dissect (Text.lines comment)).2, sentenceOf found⟩, found) := by
  unfold find dissect
  cases splitHeader? (Text.lines comment) with
  | none => rfl
  | some split =>
      obtain ⟨before, header, after⟩ := split
      simp only [valuesOf, Error.map_bind]
      refine bind_congr fun found => ?_
      split <;> rfl

theorem mem_of_mem_dissect {line : Text} (member : line ∈ (dissect lines).2) : line ∈ lines := by
  cases split : splitHeader? lines with
  | none => rwa [dissect_of_plain (not_isHeader_of_splitHeader?_eq_none split)] at member
  | some pieces =>
      obtain ⟨before, header, after⟩ := pieces
      obtain ⟨rfl, found, plain⟩ := splitHeader?_eq_some split
      rw [dissect_append plain found] at member
      rcases List.mem_append.mp member with member | member
      · exact List.mem_append_left _ member
      · exact List.mem_append_right _
          (List.mem_cons_of_mem _ ((List.dropWhile_suffix _).subset member))

/-- Neither a header nor a bullet says that the field is required. -/
theorem any_demandsField_dissect (lines : List Text) :
    (dissect lines).2.any demandsField = lines.any demandsField := by
  cases split : splitHeader? lines with
  | none => rw [dissect_of_plain (not_isHeader_of_splitHeader?_eq_none split)]
  | some pieces =>
      obtain ⟨before, header, after⟩ := pieces
      obtain ⟨rfl, found, plain⟩ := splitHeader?_eq_some split
      have noHeader : demandsField header = false := by
        rw [Bool.eq_false_iff]
        intro demands
        rw [not_isHeader_of_isMarker (isMarker_of_demandsField demands)] at found
        cases found
      have noBullet : (after.takeWhile isBullet).any demandsField = false := by
        rw [List.any_eq_false]
        intro line member demands
        have bullet := List.mem_takeWhile_imp member
        rw [not_isBullet_of_isMarker (isMarker_of_demandsField demands)] at bullet
        cases bullet
      have rest : after.any demandsField = (after.dropWhile isBullet).any demandsField := by
        conv => lhs; rw [← List.takeWhile_append_dropWhile (p := isBullet) (l := after),
          List.any_append, noBullet, Bool.false_or]
      rw [dissect_append plain found]
      simp [noHeader, rest]

/-- A run of items that ends in front of a place is the run of what stands in front of it. -/
theorem dropWhile_append_of_length_le {p : Text → Bool} {front back : List Text}
    (ends : ((front ++ back).takeWhile p).length ≤ front.length) :
    (front ++ back).takeWhile p = front.takeWhile p ∧
      (front ++ back).dropWhile p = front.dropWhile p ++ back := by
  have taken : (front ++ back).takeWhile p = front.takeWhile p := by
    rw [List.takeWhile_append] at ends ⊢
    split
    · next whole =>
        rw [if_pos whole, List.length_append] at ends
        have none : back.takeWhile p = [] := List.length_eq_zero_iff.mp (by omega)
        rw [none, List.append_nil]
        exact ((List.takeWhile_prefix p).eq_of_length whole).symm
    · rfl
  refine ⟨taken, (List.append_right_inj (front.takeWhile p)).mp ?_⟩
  rw [← List.append_assoc, List.takeWhile_append_dropWhile, ← taken,
    List.takeWhile_append_dropWhile]

theorem length_takeWhile_append_cons_le {p : Text → Bool} {line : Text} (unlisted : p line = false)
    (front back : List Text) : ((front ++ line :: back).takeWhile p).length ≤ front.length := by
  rw [List.takeWhile_append]
  split
  · rw [List.takeWhile_cons_of_neg (by simp [unlisted]), List.append_nil]
  · exact (List.takeWhile_prefix p).length_le

theorem dissect_insert {front back : List Text} {line : Text} (plain : isHeader line = false)
    (unlisted : isBullet line = false) (outside : ¬ Encloses (front ++ back) front.length) :
    ∃ front' back', (dissect (front ++ back)).2 = front' ++ back' ∧
      dissect (front ++ line :: back) =
        ((dissect (front ++ back)).1, front' ++ line :: back') := by
  cases split : splitHeader? (front ++ back) with
  | none =>
      have others := not_isHeader_of_splitHeader?_eq_none split
      rw [dissect_of_plain others]
      exact ⟨front, back, rfl, dissect_of_plain (forall_mem_insert plain others)⟩
  | some pieces =>
      obtain ⟨before, header, after⟩ := pieces
      obtain ⟨whole, found, others⟩ := splitHeader?_eq_some split
      have isFront : front <+: before ++ header :: after := ⟨back, whole⟩
      rw [whole, dissect_append others found]
      -- In front of the header the line joins what stands before the block; behind the header
      -- it comes after the last bullet and joins what stands after the block.
      rcases Nat.lt_or_ge before.length front.length with behind | inFront
      · have early : before ++ [header] <+: before ++ header :: after := ⟨after, by simp⟩
        obtain ⟨rest, rfl⟩ := List.prefix_of_prefix_length_le early isFront (by
          rw [List.length_append]
          exact behind)
        have same : after = rest ++ back := by simpa using whole.symm
        subst same
        have ends : ((rest ++ back).takeWhile isBullet).length ≤ rest.length := by
          by_contra longer
          refine outside ⟨before, header, rest ++ back, split, behind, ?_⟩
          simp only [List.length_append, List.length_cons, List.length_nil]
          omega
        obtain ⟨bullets, remain⟩ := dropWhile_append_of_length_le ends
        obtain ⟨bullets', remain'⟩ := dropWhile_append_of_length_le
          (length_takeWhile_append_cons_le unlisted rest back)
        refine ⟨before ++ rest.dropWhile isBullet, back, by simp [remain], ?_⟩
        have inserted := dissect_append others found (rest ++ line :: back)
        rw [bullets', remain'] at inserted
        simpa [bullets] using inserted
      · obtain ⟨rest, rfl⟩ :=
          List.prefix_of_prefix_length_le isFront (List.prefix_append before _) inFront
        have same : back = rest ++ header :: after := by simpa using whole
        subst same
        refine ⟨front, rest ++ after.dropWhile isBullet, by simp, ?_⟩
        simpa using dissect_append (forall_mem_insert plain others) found after

end EnumBlock

open EnumBlock (dissect valuesOf sentenceOf find_eq_valuesOf)

section

variable {comment : Text} {found? : Option (List Text)}

theorem foundBlock?_of_valuesOf
    (listed : valuesOf (dissect (Text.lines comment)).1 = .ok found?) :
    foundBlock? comment = found?.map fun found =>
      (⟨Text.unlines (dissect (Text.lines comment)).2, sentenceOf found⟩, found) := by
  rw [foundBlock?, find_eq_valuesOf, listed]
  rfl

theorem body_of_valuesOf (listed : valuesOf (dissect (Text.lines comment)).1 = .ok found?) :
    body comment = Text.unlines (dissect (Text.lines comment)).2 := by
  rw [body, block?, foundBlock?_of_valuesOf listed]
  cases found? with
  | some found => rfl
  | none =>
      rw [EnumBlock.dissect_of_valuesOf_eq_none listed, Text.unlines_lines]
      rfl

theorem blockSentence_of_valuesOf
    (listed : valuesOf (dissect (Text.lines comment)).1 = .ok found?) :
    blockSentence comment = (found?.map sentenceOf).getD [] := by
  rw [blockSentence, block?, foundBlock?_of_valuesOf listed]
  cases found? <;> rfl

theorem blockValues?_of_valuesOf
    (listed : valuesOf (dissect (Text.lines comment)).1 = .ok found?) :
    blockValues? comment = found?.map (·.map .str) := by
  rw [blockValues?, foundBlock?_of_valuesOf listed]
  cases found? <;> rfl

/-- The enum block has no say in whether the field is required. -/
theorem isRequired_body (comment : Text) : isRequired (body comment) = isRequired comment := by
  cases listed : valuesOf (dissect (Text.lines comment)).1 with
  | error error =>
      rw [body, block?, foundBlock?, find_eq_valuesOf, listed]
      rfl
  | ok found? =>
      have each : ∀ line ∈ (dissect (Text.lines comment)).2, '\n' ∉ line := fun line member =>
        Text.not_mem_of_mem_split (EnumBlock.mem_of_mem_dissect member)
      rw [body_of_valuesOf listed, isRequired_unlines each, EnumBlock.any_demandsField_dissect]
      rfl

end

/-- A comment and the same comment with one more line that is no part of the description: the
block is the same, and so is the text that the clauses are looked for in. -/
structure Extends (longer comment : Text) : Prop where
  block : (dissect (Text.lines longer)).1 = (dissect (Text.lines comment)).1
  tags : stripTags (Text.unlines (dissect (Text.lines longer)).2) =
    stripTags (Text.unlines (dissect (Text.lines comment)).2)

theorem lines_insertLine {line comment : Text} (marker : isMarker line) (position : Nat) :
    Text.lines (insertLine position line comment) =
      (Text.lines comment).take position ++ line :: (Text.lines comment).drop position := by
  refine Text.lines_unlines (by simp) (forall_mem_insert (line_of_isMarker marker) ?_)
  rw [List.take_append_drop]
  exact fun other member => Text.not_mem_of_mem_split member

theorem isRequired_insertLine {line comment : Text} (marker : isMarker line) (position : Nat) :
    isRequired (insertLine position line comment) =
      (isRequired comment || line != optionalMark) := by
  rw [isRequired, lines_insertLine marker, isRequired, ← demandsField_of_isMarker marker]
  conv => rhs; rw [← List.take_append_drop position (Text.lines comment)]
  simp only [List.any_append, List.any_cons]
  ac_rfl

theorem extends_insertLine {line comment : Text} {position : Nat} (marker : isMarker line)
    (outside : ¬ EnumBlock.Encloses (Text.lines comment) position) :
    Extends (insertLine position line comment) comment := by
  have front : ¬ EnumBlock.Encloses ((Text.lines comment).take position ++
      (Text.lines comment).drop position) ((Text.lines comment).take position).length := by
    rw [List.take_append_drop, List.length_take]
    rcases Nat.le_total position (Text.lines comment).length with within | behind
    · rwa [Nat.min_eq_left within]
    · rw [Nat.min_eq_right behind]
      exact EnumBlock.not_encloses_of_length_le (Nat.le_refl _)
  obtain ⟨before, after, rest, inserted⟩ := EnumBlock.dissect_insert
    (not_isHeader_of_isMarker marker) (not_isBullet_of_isMarker marker) front
  rw [List.take_append_drop] at rest inserted
  rw [← lines_insertLine marker] at inserted
  have each : ∀ other ∈ before ++ after, '\n' ∉ other := fun other member =>
    Text.not_mem_of_mem_split (EnumBlock.mem_of_mem_dissect (rest ▸ member))
  refine ⟨by rw [inserted], ?_⟩
  rw [inserted, rest]
  exact stripTags_unlines_insert marker each

end Comment

namespace Interpreter

variable {builder : Builder} {raw : Option Text} {comment : Text}

theorem required_of_reading {interpreter : Interpreter} {reading : Reading}
    (read : interpreter.reading raw comment = .ok reading) :
    reading.required = Comment.isRequired comment := by
  unfold Interpreter.reading at read
  obtain ⟨_, -, read⟩ := Error.bind_eq_ok.mp read
  obtain ⟨_, -, read⟩ := Error.bind_eq_ok.mp read
  obtain ⟨_, -, read⟩ := Error.bind_eq_ok.mp read
  obtain ⟨_, -, read⟩ := Error.bind_eq_ok.mp read
  obtain ⟨_, -, read⟩ := Error.bind_eq_ok.mp read
  obtain ⟨_, -, read⟩ := Error.bind_eq_ok.mp read
  obtain ⟨_, -, read⟩ := Error.bind_eq_ok.mp read
  rw [← Except.ok.inj read]
  exact Comment.isRequired_body comment

theorem reading_of_extends [Dialect] {longer : Text} (extended : Comment.Extends longer comment) :
    (standard builder false).reading raw longer =
      ((standard builder false).reading raw comment).map fun reading =>
        { reading with required := Comment.isRequired longer } := by
  unfold reading
  simp only [Error.map_bind]
  refine bind_congr fun (context, name) => ?_
  change (Except.mapError _ _ >>= _) = (Except.mapError _ _ >>= _)
  rw [Comment.EnumBlock.find_eq_valuesOf, Comment.EnumBlock.find_eq_valuesOf, extended.block]
  cases listed : Comment.EnumBlock.valuesOf
      (Comment.EnumBlock.dissect (Text.lines comment)).1 with
  | error error => rfl
  | ok found? =>
      have listed' := listed
      rw [← extended.block] at listed'
      have sentence : Comment.blockSentence longer = Comment.blockSentence comment := by
        rw [Comment.blockSentence_of_valuesOf listed', Comment.blockSentence_of_valuesOf listed]
      have values : Comment.blockValues? longer = Comment.blockValues? comment := by
        rw [Comment.blockValues?_of_valuesOf listed', Comment.blockValues?_of_valuesOf listed]
      have tags : Comment.stripTags (Comment.body longer) =
          Comment.stripTags (Comment.body comment) := by
        rw [Comment.body_of_valuesOf listed', Comment.body_of_valuesOf listed, extended.tags]
      simp only [tags, sentence, values, Comment.isRequired_body, Error.map_ok]
      rfl

/-- One more marker line outside the enum block changes nothing but whether the field is
required, and a field is required if and only if a line of its comment says so. -/
theorem annotate_insertLine [Dialect] {line : Text} {position : Nat}
    (marker : Comment.isMarker line)
    (outside : ¬ Comment.EnumBlock.Encloses (Text.lines comment) position) (builder : Builder)
    (raw : Option Text) (definition : Definition) :
    let annotate (strict : Bool) := (standard builder strict).annotate raw
    let longer := Comment.insertLine position line comment
    (annotate false longer definition).1 = (annotate false comment definition).1 ∧
      (annotate false longer definition).2 =
        ((annotate false comment definition).2.map fun info =>
          { info with required := info.required || line != Comment.optionalMark }) ∧
      ∀ strict info, (annotate strict comment definition).2 = .ok info →
        (info.required ↔
          ∃ line ∈ Text.lines comment,
            line = Comment.requiredMark ∨ line = Comment.requiredWord) := by
  intro annotate longer
  have entered (strict : Bool) (comment : Text) :=
    annotate_eq (standard builder strict) raw comment rfl definition
  have extended : (standard builder false).reading raw longer = _ :=
    reading_of_extends (Comment.extends_insertLine marker outside)
  simp only [annotate, entered, extended]
  refine ⟨?_, ?_, fun strict info answered => ?_⟩
  · cases (standard builder false).reading raw comment with
    | error error => rfl
    | ok reading => rfl
  · cases read : (standard builder false).reading raw comment with
    | error error => rfl
    | ok reading =>
        have required : Comment.isRequired longer =
            (reading.required || line != Comment.optionalMark) := by
          rw [required_of_reading read, Comment.isRequired_insertLine marker]
        simp only [Error.map_ok, Reading.info, required]
  · cases read : (standard builder strict).reading raw comment with
    | error error =>
        rw [read] at answered
        cases answered
    | ok reading =>
        rw [read] at answered
        cases answered
        rw [Reading.info, required_of_reading read, Comment.isRequired, List.any_eq_true]
        simp [Comment.demandsField]

def listedBetween : Text := "A is x.\nPossible values are:\n- \x60a\x60\nMore.".toList

/-- Right behind the last bullet a marker line is outside the block. -/
theorem annotate_insertLine_listedBetween :
    Comment.isMarker Comment.requiredMark ∧
      ¬ Comment.EnumBlock.Encloses (Text.lines listedBetween) 3 ∧
      Comment.insertLine 3 Comment.requiredMark listedBetween =
        "A is x.\nPossible values are:\n- \x60a\x60\n+required\nMore.".toList ∧
      ((standard {} false).annotate (some "A".toList)
        (Comment.insertLine 3 Comment.requiredMark listedBetween) {}).1 =
          ((standard {} false).annotate (some "A".toList) listedBetween {}).1 ∧
      ((standard {} false).annotate (some "A".toList)
        (Comment.insertLine 3 Comment.requiredMark listedBetween) {}).2 =
          .ok { required := true } := by
  have outside : ¬ Comment.EnumBlock.Encloses (Text.lines listedBetween) 3 := by
    intro encloses
    obtain ⟨before, header, after, split, -, within⟩ := encloses
    have parts : Comment.EnumBlock.splitHeader? (Text.lines listedBetween) =
        some (["A is x.".toList], "Possible values are:".toList,
          ["- \x60a\x60".toList, "More.".toList]) := by decide +kernel
    cases parts.symm.trans split
    exact absurd within (by decide)
  have marker : Comment.isMarker Comment.requiredMark := by decide
  obtain ⟨same, answer, -⟩ := annotate_insertLine marker outside {} (some "A".toList) {}
  have plain : ((standard {} false).annotate (some "A".toList) listedBetween {}).2 = .ok {} := by
    decide +kernel
  rw [plain] at answer
  exact ⟨marker, outside, by decide +kernel, same, answer⟩

end Interpreter

end CommentSchema
