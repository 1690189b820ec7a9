import CommentSchema.Proofs.Written
import Mathlib.Data.List.Permutation
import Mathlib.Data.List.Sublists

/-! What the readers find in a comment that is written from its parts, in any order of their
sentences.  A literal and an overriding type run on to the end of what is left when their reader
has its turn, and what they run over is not found by the readers behind; the one order in which
nothing is run over has the example first and the default last. -/

namespace CommentSchema.Comment

/-- What is read of the part about the type, with some text behind its sentence. -/
def TypePart.read (behind : Text) : TypePart → TypePart
  | unstated => unstated
  | override type => override (runOn type behind)
  | oneOf types => oneOf (readable types)

namespace Parts

/-- The slots before a slot, or all of them where it is not there. -/
def upTo (slot : Slot) (order : List Slot) : List Slot := order.takeWhile (· != slot)

/-- The sentences behind the one in a slot. -/
def behind (parts : Parts) (slot : Slot) (order : List Slot) : Text :=
  parts.sentences (order.dropWhile (· != slot)).tail

/-- The parts as they are found when their sentences stand in some order. -/
def found (parts : Parts) (order : List Slot) : Parts :=
  let early := upTo .default order
  { parts with
    default? :=
      if .default ∈ order then parts.default?.map (runOn · (parts.behind .default order)) else none
    type := if .type ∈ early then parts.type.read (parts.behind .type early) else .unstated
    example? := if .sample ∈ upTo .type early then parts.example? else none }

/-- Slots that have a sentence, each once. -/
structure Arranged (parts : Parts) (order : List Slot) : Prop where
  nodup : order.Nodup
  chosen : ∀ slot ∈ order, parts.sentenceAt slot ≠ []

variable {parts : Parts} {order : List Slot} {slot : Slot}

namespace Arranged

theorem of_perm (permuted : order.Perm parts.selected) : parts.Arranged order where
  nodup := permuted.nodup_iff.mpr (List.Nodup.sublist List.filter_sublist (by decide))
  chosen := by
    intro slot member
    have chosen := (List.mem_filter.mp (permuted.subset member)).2
    simpa using chosen

theorem sublist {fewer : List Slot} (arranged : parts.Arranged order)
    (inside : fewer.Sublist order) : parts.Arranged fewer where
  nodup := arranged.nodup.sublist inside
  chosen := fun slot member => arranged.chosen slot (inside.subset member)

theorem upTo (arranged : parts.Arranged order) (slot : Slot) :
    parts.Arranged (upTo slot order) :=
  arranged.sublist (List.takeWhile_sublist _)

end Arranged

theorem mem_of_mem_upTo {other : Slot} (member : other ∈ upTo slot order) : other ∈ order :=
  (List.takeWhile_sublist _).subset member

theorem ne_of_mem_upTo {other : Slot} (member : other ∈ upTo slot order) : other ≠ slot := by
  have different := List.mem_takeWhile_imp member
  simpa using different

theorem upTo_of_not_mem (absent : slot ∉ order) : upTo slot order = order := by
  refine List.takeWhile_eq_self_iff.mpr fun other member => ?_
  rw [bne_iff_ne]
  intro same
  exact absent (same ▸ member)

/-- An order that has a slot falls into what stands before the slot and what stands behind. -/
theorem split_at (parts : Parts) (nodup : order.Nodup) (member : slot ∈ order) :
    ∃ after, order = upTo slot order ++ slot :: after ∧ slot ∉ after ∧
      parts.behind slot order = parts.sentences after := by
  obtain ⟨before, after, rfl, fresh⟩ := List.eq_append_cons_of_mem member
  have others : ∀ other ∈ before, (other != slot) = true := by
    intro other inside
    rw [bne_iff_ne]
    intro same
    exact fresh (same ▸ inside)
  have taken : upTo slot (before ++ slot :: after) = before := by
    rw [upTo, List.takeWhile_append_of_pos others]
    simp
  have left : ((before ++ slot :: after).dropWhile (· != slot)).tail = after := by
    rw [List.dropWhile_append_of_pos others]
    simp
  refine ⟨after, by rw [taken], ?_, by rw [behind, left]⟩
  have single := (List.nodup_append.mp nodup).2.1
  exact (List.nodup_cons.mp single).1

theorem arrange_split {before after : List Slot} :
    parts.arrange (before ++ slot :: after) =
      parts.arrange before ++ (parts.sentenceAt slot ++ parts.sentences after) := by
  simp [arrange, sentences]

theorem stops_append_sentences (writable : parts.Writable)
    (chosen : ∀ slot ∈ order, parts.sentenceAt slot ≠ []) {text : Text}
    (stops : ∃ front, text = front ++ stop) :
    ∃ front, text ++ parts.sentences order = front ++ stop := by
  induction order generalizing text with
  | nil => simpa [sentences] using stops
  | cons slot rest ih =>
      rw [List.forall_mem_cons] at chosen
      obtain ⟨front, ends⟩ := stops_sentenceAt writable chosen.1
      have first : ∃ front, text ++ parts.sentenceAt slot = front ++ stop :=
        ⟨text ++ front, by rw [ends, List.append_assoc]⟩
      simpa [sentences] using ih chosen.2 first

/-- A lead that only the sentence in one slot has. -/
structure LeadAt (parts : Parts) (slot : Slot) (lead : Text) : Prop where
  single : Text.neverBegins lead lead.tail
  prose : foreign lead [proseLead]
  stops : Text.keepsOut lead ['.']
  elsewhere : ∀ other ≠ slot, foreign lead (parts.fixedAt other)

/-- The reader of a clause finds the sentence in its slot, and in its payload what stands behind
the sentence. -/
theorem extract_arrange {lead : Text} {payload? : Option Text} (writable : parts.Writable)
    (arranged : parts.Arranged order) (leadAt : parts.LeadAt slot lead)
    (written : parts.sentenceAt slot = sentence? lead payload?)
    (plain : ∀ payload ∈ payload?, Plain payload) :
    extract lead (parts.arrange order) = (parts.arrange (upTo slot order),
      if slot ∈ order then payload?.map (runOn · (parts.behind slot order)) else none) := by
  have line := line_arrange writable order
  by_cases member : slot ∈ order
  · have chosen := arranged.chosen slot member
    obtain ⟨after, split, fresh, behind⟩ := split_at parts arranged.nodup member
    cases payload? with
    | none => exact absurd written chosen
    | some payload =>
        have isGuarded := guarded_of_foreign leadAt.prose
        have ended := (plain payload rfl).not_infix_stop isGuarded leadAt.stops
        have others : ∀ other ∈ after, foreign lead (parts.fixedAt other) :=
          fun other inside => leadAt.elsewhere other fun same => fresh (same ▸ inside)
        have absent := not_infix_append_sentences writable others ended
        have chosenAfter : ∀ other ∈ after, parts.sentenceAt other ≠ [] := by
          intro other inside
          refine arranged.chosen other ?_
          rw [split]
          simp [inside]
        have stops := stops_append_sentences writable chosenAfter ⟨payload, rfl⟩
        have whole := (congrArg parts.arrange split).trans arrange_split
        rw [written] at whole
        rw [if_pos member, behind]
        rw [whole] at line ⊢
        rw [List.append_assoc] at absent stops
        have firm := firm_arrange writable (upTo slot order)
        exact extract_sentence (ne_nil_of_guarded isGuarded) leadAt.single absent stops firm line
  · rw [if_neg member, upTo_of_not_mem member]
    refine extract_absent line (not_infix_arrange writable leadAt.prose fun other inside => ?_)
    exact leadAt.elsewhere other fun same => member (same ▸ inside)

theorem leadAt_default : parts.LeadAt .default defaultLead where
  single := by decide
  prose := by decide
  stops := by decide
  elsewhere := by
    intro other different
    refine foreign_fixedAt ?_
    cases other with
    | default => exact absurd rfl different
    | sample | type => decide

theorem leadAt_type : parts.LeadAt .type typeLead where
  single := by decide
  prose := by decide
  stops := by decide
  elsewhere := by
    intro other different
    refine foreign_fixedAt ?_
    cases other with
    | type => exact absurd rfl different
    | sample | default => decide

theorem leadAt_sample : parts.LeadAt .sample exampleLead where
  single := by decide
  prose := by decide
  stops := by decide
  elsewhere := by
    intro other different
    refine foreign_fixedAt ?_
    cases other with
    | sample => exact absurd rfl different
    | type | default => decide

theorem extractDefault_arrange (writable : parts.Writable) (arranged : parts.Arranged order) :
    extractDefault (parts.arrange order) =
      (parts.arrange (upTo .default order), (parts.found order).default?) :=
  extract_arrange writable arranged leadAt_default rfl writable.default?

theorem extractType_of_override (writable : parts.Writable) (arranged : parts.Arranged order)
    {type : Text} (stated : parts.type = .override type) :
    extractType (parts.arrange order) = (parts.arrange (upTo .type order),
      if .type ∈ order then some (runOn type (parts.behind .type order)) else none) := by
  have written : parts.sentenceAt .type = sentence? typeLead (some type) := by
    rw [sentenceAt, stated]
    rfl
  have plain : ∀ payload ∈ some type, Plain payload := by
    intro payload same
    cases same
    exact writable.types type (by simp [stated, TypePart.types])
  exact extract_arrange writable arranged leadAt_type written plain

theorem extractType_of_no_override (writable : parts.Writable)
    (stated : ∀ type, parts.type ≠ .override type) (order : List Slot) :
    extractType (parts.arrange order) = (parts.arrange order, none) := by
  refine extract_absent (line_arrange writable order)
    (not_infix_arrange writable (by decide) fun slot _ => ?_)
  cases slot with
  | sample | default => rfl
  | type =>
      unfold fixedAt
      cases type : parts.type with
      | unstated | oneOf => rfl
      | override type' => exact absurd type (stated type')

/-- The words that every lead of a list begins with, and no other sentence has. -/
def listPhrase : Text := "Schema type is one".toList

theorem listPhrase_isInfix : listPhrase <:+: oneOfLead :=
  List.IsPrefix.isInfix ⟨" of ".toList, rfl⟩

theorem foreign_listPhrase (different : slot ≠ .type) :
    foreign listPhrase (parts.fixedAt slot) := by
  cases slot with
  | type => exact absurd rfl different
  | sample | default => rfl

theorem extractOneOf_of_not_mem (writable : parts.Writable) (absent : .type ∉ order) :
    extractOneOf (parts.arrange order) = .ok (parts.arrange order, none) := by
  refine extractOneOf_absent (line_arrange writable order) fun found => ?_
  refine not_infix_arrange writable (by decide) (fun slot member => ?_)
    (listPhrase_isInfix.trans found)
  exact foreign_listPhrase fun same => absent (same ▸ member)

theorem extractOneOf_of_mem (writable : parts.Writable) (arranged : parts.Arranged order)
    {types : List Text} (stated : parts.type = .oneOf types) (member : .type ∈ order) :
    extractOneOf (parts.arrange order) =
      if readable types = [] then .error (.oneOfWithoutEntries (parts.arrange order))
      else .ok (parts.arrange (upTo .type order), some (readable types)) := by
  have line := line_arrange writable order
  have plain := writable.types
  obtain ⟨after, split, fresh, -⟩ := split_at parts arranged.nodup member
  have whole := (congrArg parts.arrange split).trans arrange_split
  have written : parts.sentenceAt .type = oneOfSentence types := by
    rw [sentenceAt, stated]
    rfl
  rw [written] at whole
  rw [stated] at plain
  rw [whole] at line ⊢
  refine extractOneOf_oneOfSentence (fun text inside => (plain text inside).unticked) ?_
    (firm_arrange writable _) line
  intro found
  cases types with
  | nil => exact writable.listed stated
  | cons first rest =>
      have payloads : ¬ listPhrase <:+: first ++ backtick :: listingTail rest :=
        not_infix_listing (by decide) (by decide) (by decide) fun payload inside =>
          (plain payload inside).not_infix_ticked (by decide)
      have sentences := not_infix_append_sentences writable
        (fun slot inside => foreign_listPhrase fun same => fresh (same ▸ inside)) payloads
      have begins : Text.neverBegins listPhrase (oneOfLead.tail ++ [backtick]) := by decide
      refine Text.not_infix_fixed_append begins sentences (listPhrase_isInfix.trans ?_)
      simpa [listing_cons] using found

/-- Before the example nothing is left but the prose, and nothing stands behind it that is left. -/
theorem extractExample_arrange (writable : parts.Writable) (arranged : parts.Arranged order)
    (only : ∀ slot ∈ order, slot = .sample) :
    extractExample (parts.arrange order) =
      (parts.withProse, if .sample ∈ order then parts.example? else none) := by
  have first := extract_arrange writable arranged leadAt_sample rfl writable.example?
  have alone : order = [] ∨ order = [.sample] := by
    cases order with
    | nil => exact .inl rfl
    | cons slot rest =>
        rw [List.forall_mem_cons] at only
        have fresh := (List.nodup_cons.mp arranged.nodup).1
        have none : rest = [] := by
          refine List.eq_nil_iff_forall_not_mem.mpr fun other inside => fresh ?_
          rwa [only.1, ← only.2 other inside]
        exact .inr (by rw [only.1, none])
  rw [extractExample, first]
  rcases alone with rfl | rfl
  · simp [upTo, arrange, sentences]
  · simp [upTo, behind, arrange, sentences]

/-- In the order in which they are written, all parts are found, but of a list no entry behind an
empty one. -/
theorem found_selected (parts : Parts) :
    parts.found parts.selected = { parts with type := parts.type.read [] } := by
  obtain ⟨name, prose, sample?, type, default?⟩ := parts
  cases sample? with
  | none | some sample =>
      cases default? with
      | none | some default =>
          cases type with
          | unstated | override type | oneOf types =>
              simp [found, selected, sentenceAt, sentence?, sentence, TypePart.sentence,
                oneOfSentence, upTo, behind, sentences, TypePart.read]

/-- Another order has something behind the default, or the example behind something else. -/
theorem eq_selected_or (permuted : order.Perm parts.selected) :
    order = parts.selected ∨
      (.default ∈ order ∧ (order.dropWhile (· != .default)).tail ≠ []) ∨
      (.sample ∈ order ∧ .sample ∉ upTo .type (upTo .default order)) := by
  have swaps : ∀ chosen ∈ ([.sample, .type, .default] : List Slot).sublists',
      ∀ order ∈ chosen.permutations', order = chosen ∨
        (.default ∈ order ∧ (order.dropWhile (· != .default)).tail ≠ []) ∨
        (.sample ∈ order ∧ .sample ∉ upTo .type (upTo .default order)) := by decide
  exact swaps _ (List.mem_sublists'.mpr List.filter_sublist) _
    (List.mem_permutations'.mpr permuted)

theorem length_runOn (payload after : Text) :
    (runOn payload after).length = payload.length + after.length := by
  simp only [runOn, List.rdrop, stop, List.length_take, List.length_append, List.length_cons,
    List.length_nil]
  omega

/-- An order in which the parts are found as in the written one is that order. -/
theorem found_eq_iff (permuted : order.Perm parts.selected) :
    parts.found order = parts.found parts.selected ↔ order = parts.selected := by
  refine ⟨fun same => ?_, fun same => by rw [same]⟩
  have arranged := Arranged.of_perm permuted
  rw [found_selected] at same
  rcases eq_selected_or permuted with written | ⟨member, something⟩ | ⟨member, absent⟩
  · exact written
  · -- The literal is longer by the sentences that stand behind it.
    have literals := congrArg Parts.default? same
    simp only [found, if_pos member] at literals
    have chosen := arranged.chosen .default member
    cases default? : parts.default? with
    | none => simp [sentenceAt, sentence?, default?] at chosen
    | some literal =>
        rw [default?, Option.map_some, Option.some.injEq] at literals
        have lengths := congrArg List.length literals
        rw [length_runOn, Nat.add_eq_left, List.length_eq_zero_iff, behind, sentences,
          List.flatMap_eq_nil_iff] at lengths
        obtain ⟨slot, inside⟩ := List.exists_mem_of_ne_nil _ something
        have inOrder := (List.dropWhile_suffix _).subset (List.mem_of_mem_tail inside)
        exact absurd (lengths slot inside) (arranged.chosen slot inOrder)
  · have examples := congrArg Parts.example? same
    simp only [found, if_neg absent] at examples
    have chosen := arranged.chosen .sample member
    simp [sentenceAt, sentence?, ← examples] at chosen

end Parts

end CommentSchema.Comment
