import CommentSchema.Proofs.ClauseOrder
import CommentSchema.Proofs.Residue

/-! What becomes of a payload on its way through the readers.  In one line and without
backticks, and whatever else it looks like, it is cut out as it was put in; only the marker
words are no longer in it, since they leave a comment before any clause is read. -/

namespace CommentSchema

namespace Comment

/-- A line without its marker words. -/
def unmark (text : Text) : Text := Text.erase optionalMark (Text.erase requiredMark text)

/-- A payload in backticks, between two texts. -/
def quote (front payload after : Text) : Text :=
  front ++ backtick :: (payload ++ backtick :: after)

/-! The words of a lead, without the backtick that ends it. -/

def examplePhrase : Text := "For example: ".toList

def defaultPhrase : Text := "Defaults to ".toList

def typePhrase : Text := "Schema type is ".toList

theorem append_sentence (text phrase payload : Text) :
    text ++ sentence (phrase ++ [backtick]) payload =
      quote (text ++ ' ' :: phrase) payload ['.'] := by
  simp [sentence, quote]

theorem unmark_of_unmarked {text : Text} (absent : ∀ mark ∈ marks, ¬ mark <:+: text) :
    unmark text = text := by
  simp only [marks, List.forall_mem_cons] at absent
  rw [unmark, Text.erase_of_not_infix absent.1, Text.erase_of_not_infix absent.2.1]

theorem unmark_quote {front after : Text} (payload : Text)
    (unmarkedFront : ∀ mark ∈ marks, ¬ mark <:+: front)
    (unmarkedAfter : ∀ mark ∈ marks, ¬ mark <:+: after) :
    unmark (quote front payload after) = quote front (unmark payload) after := by
  have required : requiredMark ≠ [] ∧ backtick ∉ requiredMark := by decide
  have optional : optionalMark ≠ [] ∧ backtick ∉ optionalMark := by decide
  have apart (text : Text) (rest : Text) :
      unmark (text ++ backtick :: rest) = unmark text ++ backtick :: unmark rest := by
    rw [unmark, Text.erase_append_cons required.1 required.2,
      Text.erase_append_cons optional.1 optional.2]
    rfl
  rw [quote, apart, apart, unmark_of_unmarked unmarkedFront, unmark_of_unmarked unmarkedAfter]
  rfl

theorem mem_of_mem_unmark {text : Text} {c : Char} (member : c ∈ unmark text) : c ∈ text :=
  Text.mem_of_mem_erase (by decide) (Text.mem_of_mem_erase (by decide) member)

section

variable {front payload after phrase : Text}

/-- A clause takes both backticks of the only quotation, so its lead ends where that begins. -/
theorem isSuffix_of_hasClause_quote (unticked : backtick ∉ front ++ payload ++ after)
    (found : HasClause (phrase ++ [backtick]) (quote front payload after)) : phrase <:+ front := by
  obtain ⟨inner, before, behind, same⟩ := found
  have whole : before ++ phrase ++ backtick :: (inner ++ backtick :: behind) =
      front ++ backtick :: (payload ++ backtick :: after) := by
    simpa [quote] using same
  -- There are two backticks, and the clause has as many behind its phrase.
  have ticks := congrArg (List.count backtick) whole
  have none := List.count_eq_zero.mpr unticked
  simp only [List.count_append, List.count_cons_self] at ticks none
  have free : backtick ∉ before ++ phrase := by
    rw [← List.count_eq_zero, List.count_append]
    omega
  have fronts := congrArg (List.takeWhile (· != backtick)) whole
  simp only [List.mem_append, not_or] at unticked
  rw [takeWhile_unticked free, takeWhile_unticked unticked.1.1] at fronts
  exact ⟨before, fronts⟩

theorem extract_quote_of_not_suffix (unticked : backtick ∉ front ++ payload ++ after)
    (line : '\n' ∉ quote front payload after) (other : ¬ phrase <:+ front) :
    extract (phrase ++ [backtick]) (quote front payload after) =
      (quote front payload after, none) := by
  have absent := clauseInLine?_eq_none_iff.mpr fun found =>
    other (isSuffix_of_hasClause_quote unticked found)
  rw [extract_of_line line, absent]

theorem extract_quote (nonempty : phrase ≠ [])
    (unticked : backtick ∉ front ++ phrase ++ payload ++ after)
    (line : '\n' ∉ quote (front ++ phrase) payload after) :
    extract (phrase ++ [backtick]) (quote (front ++ phrase) payload after) =
      (Text.trim front, some payload) := by
  simp only [List.mem_append, not_or] at unticked
  have toEnd : toLastBacktick? (payload ++ backtick :: after) = some payload :=
    toLastBacktick?_append payload unticked.2
  have last : clauseInLine? (phrase ++ [backtick])
      ((phrase ++ [backtick]).tail ++ (payload ++ backtick :: after)) = none := by
    have later : (phrase ++ [backtick]).tail ++ (payload ++ backtick :: after) =
        quote phrase.tail payload after := by
      rw [List.tail_append_of_ne_nil nonempty]
      simp [quote]
    rw [later, clauseInLine?_eq_none_iff]
    intro found
    have shorter := isSuffix_of_hasClause_quote (by
      simp only [List.mem_append, not_or]
      exact ⟨⟨fun member => unticked.1.1.2 (List.mem_of_mem_tail member), unticked.1.2⟩,
        unticked.2⟩) found
    have lengths := shorter.length_le
    have positive := List.length_pos_of_ne_nil nonempty
    rw [List.length_tail] at lengths
    omega
  have found := clauseInLine?_append front (clauseInLine?_of_last (by simp) last toEnd)
  have whole : quote (front ++ phrase) payload after =
      front ++ (phrase ++ [backtick] ++ (payload ++ backtick :: after)) := by
    simp [quote]
  rw [extract_of_line line, whole, found, List.append_nil]

/-- A list that begins in the payload has no entry, for the lead is not followed by the payload
of a quotation. -/
theorem extractOneOf_quote (unticked : backtick ∉ front ++ payload ++ after)
    (line : '\n' ∉ quote front payload after) (outsideFront : ¬ oneOfLead <:+: front)
    (outsideAfter : ¬ oneOfLead <:+: after) :
    extractOneOf (quote front payload after) =
      if oneOfLead <:+: payload then .error (.oneOfWithoutEntries (quote front payload after))
      else .ok (quote front payload after, none) := by
  have single : backtick ∉ oneOfLead := by decide
  have inside : oneOfLead <:+: quote front payload after ↔ oneOfLead <:+: payload := by
    rw [quote, Text.infix_append_cons_iff single, Text.infix_append_cons_iff single]
    simp [outsideFront, outsideAfter]
  split
  · next listed =>
      have found := inside.mpr listed
      cases split : Text.splitLast? oneOfLead (quote front payload after) with
      | none => exact absurd found ((Text.splitLast?_eq_none_iff (by decide)).mp split)
      | some pieces =>
          obtain ⟨before, behind⟩ := pieces
          have whole := Text.splitLast?_eq_some split
          have none : entries behind = [] := by
            cases read : entries behind with
            | nil => rfl
            | cons entry others =>
                obtain ⟨rest, same⟩ := entries_eq_cons read
                have clause : HasClause (oneOfLead ++ [backtick]) (quote front payload after) := by
                  refine ⟨entry, before, rest, ?_⟩
                  rw [whole, same]
                  simp
                have ends := isSuffix_of_hasClause_quote unticked clause
                exact absurd ends.isInfix outsideFront
          rw [extractOneOf, oneOfSplit?_of_line line, split]
          simp only [none]
  · next absent => exact extractOneOf_absent line fun found => absent (inside.mp found)

end

/-- A phrase and a payload that fit into one line, the payload in backticks. -/
structure Quotable (phrase payload : Text) : Prop where
  phraseLine : '\n' ∉ phrase
  phraseUnticked : backtick ∉ phrase
  line : '\n' ∉ payload
  unticked : backtick ∉ payload

theorem Quotable.unmark {phrase payload : Text} (quotable : Quotable phrase payload) :
    Quotable phrase (unmark payload) where
  phraseLine := quotable.phraseLine
  phraseUnticked := quotable.phraseUnticked
  line := fun member => quotable.line (mem_of_mem_unmark member)
  unticked := fun member => quotable.unticked (mem_of_mem_unmark member)

namespace Parts

variable {parts : Parts} {phrase payload : Text}

theorem not_infix_withProse_append {word : Text} (writable : parts.Writable)
    (isForeign : foreign word [proseLead, ' ' :: phrase]) :
    ¬ word <:+: parts.withProse ++ ' ' :: phrase := by
  have keeps := keepsOut_of_foreign isForeign
  have isGuarded := guarded_of_foreign isForeign
  have prose : foreign word [proseLead] := by
    simp [foreign, isGuarded, keeps proseLead]
  have whole := Text.not_infix_of_keepsOut (keeps (' ' :: phrase) (by simp))
    (not_infix_withProse writable prose) (not_infix_nil_of_guarded isGuarded)
  simpa using whole

section

variable (writable : parts.Writable) (quotable : Quotable phrase payload)

include writable quotable

theorem begins_sentence :
    parts.Begins (parts.withProse ++ sentence (phrase ++ [backtick]) payload) where
  begins := List.prefix_append _ _
  line := by
    have front := line_arrange writable []
    simp only [arrange, sentences, List.flatMap_nil, List.append_nil] at front
    simp [sentence, front, quotable.phraseLine, quotable.line, backtick]
  firm := (firm_withProse writable).append
    ⟨' ' :: (phrase ++ [backtick]) ++ (payload ++ [backtick]), '.', by simp [sentence], rfl⟩

theorem unticked_sentence :
    backtick ∉ parts.withProse ++ ' ' :: phrase ++ payload ++ ['.'] := by
  have lead : backtick ∉ proseLead := by decide
  have blank : backtick ≠ ' ' := by decide
  have dot : backtick ≠ '.' := by decide
  simp [withProse, writable.name.unticked, writable.prose.unticked, lead, blank, dot,
    quotable.phraseUnticked, quotable.unticked]

/-- Before a clause is read, its payload has lost its marker words and nothing else has
changed. -/
theorem stripTags_sentence
    (foreignMarks : ∀ mark ∈ marks, foreign mark [proseLead, ' ' :: phrase]) :
    stripTags (parts.withProse ++ sentence (phrase ++ [backtick]) payload) =
      parts.withProse ++ sentence (phrase ++ [backtick]) (unmark payload) := by
  have unmarkedFront : ∀ mark ∈ marks, ¬ mark <:+: parts.withProse ++ ' ' :: phrase :=
    fun mark member => not_infix_withProse_append writable (foreignMarks mark member)
  have unmarkedStop : ∀ mark ∈ marks, ¬ mark <:+: ['.'] := by decide
  have kept := unmark_quote payload unmarkedFront unmarkedStop
  have firm := (begins_sentence writable quotable.unmark).firm
  rw [(begins_sentence writable quotable).stripTags_eq, ← unmark, append_sentence, kept,
    ← append_sentence, firm.trim_eq]

theorem extract_own_sentence (nonempty : phrase ≠ []) :
    extract (phrase ++ [backtick]) (parts.withProse ++ sentence (phrase ++ [backtick]) payload) =
      (parts.withProse, some payload) := by
  have line := (begins_sentence writable quotable).line
  have unticked := unticked_sentence writable quotable
  have whole : parts.withProse ++ ' ' :: phrase = parts.withProse ++ [' '] ++ phrase := by simp
  rw [append_sentence, whole] at line ⊢
  rw [whole] at unticked
  rw [extract_quote nonempty unticked line, (firm_withProse writable).trim_concat_space]

theorem extract_other_sentence (other : Text)
    (apart : ¬ other <:+ ' ' :: phrase ∧ ¬ ' ' :: phrase <:+ other) :
    extract (other ++ [backtick]) (parts.withProse ++ sentence (phrase ++ [backtick]) payload) =
      (parts.withProse ++ sentence (phrase ++ [backtick]) payload, none) := by
  have line := (begins_sentence writable quotable).line
  have unticked := unticked_sentence writable quotable
  rw [append_sentence] at line ⊢
  refine extract_quote_of_not_suffix unticked line fun ends => ?_
  rcases List.suffix_or_suffix_of_suffix ends (List.suffix_append _ _) with inside | inside
  · exact apart.1 inside
  · exact apart.2 inside

theorem extractOneOf_sentence (isForeign : foreign listPhrase [proseLead, ' ' :: phrase]) :
    extractOneOf (parts.withProse ++ sentence (phrase ++ [backtick]) payload) =
      if oneOfLead <:+: payload then
        .error (.oneOfWithoutEntries
          (parts.withProse ++ sentence (phrase ++ [backtick]) payload))
      else .ok (parts.withProse ++ sentence (phrase ++ [backtick]) payload, none) := by
  have line := (begins_sentence writable quotable).line
  have unticked := unticked_sentence writable quotable
  have outside := not_infix_withProse_append writable isForeign
  rw [append_sentence] at line ⊢
  exact extractOneOf_quote unticked line (fun found => outside (listPhrase_isInfix.trans found))
    (by decide)

end

end Parts

end Comment

namespace Interpreter

open Comment (Parts Quotable backtick unmark sentence oneOfLead exampleLead defaultLead
  examplePhrase defaultPhrase typePhrase)

section

variable [Dialect] {builder : Builder} {parts : Parts} {payload context name : Text}
  {raw : Option Text}

/-- The example is what was put in, without its marker words.  Only the lead of a list is not
passed over in it. -/
theorem reading_sample (writable : parts.Writable) (quotable : Quotable examplePhrase payload)
    (resolves : Reference.interpret raw = (context, name)) :
    (standard builder false).reading raw (parts.withProse ++ sentence exampleLead payload) =
      if oneOfLead <:+: unmark payload then
        .error (.oneOfWithoutEntries (parts.withProse ++ sentence exampleLead (unmark payload)))
      else
        Parts.conclude builder context name []
          { name := parts.name, prose := parts.prose, example? := some (unmark payload) } := by
  have lead : exampleLead = examplePhrase ++ [backtick] := rfl
  have written := quotable.unmark
  have begun := Parts.begins_sentence writable quotable
  have tags := Parts.stripTags_sentence writable quotable (by decide)
  have noDefault : Comment.extractDefault
      (parts.withProse ++ sentence (examplePhrase ++ [backtick]) (unmark payload)) = (_, none) :=
    Parts.extract_other_sentence writable written defaultPhrase (by decide)
  have noType : Comment.extractType
      (parts.withProse ++ sentence (examplePhrase ++ [backtick]) (unmark payload)) = (_, none) :=
    Parts.extract_other_sentence writable written typePhrase (by decide)
  have listed := Parts.extractOneOf_sentence writable written (by decide)
  have found : Comment.extractExample
      (parts.withProse ++ sentence (examplePhrase ++ [backtick]) (unmark payload)) =
        (parts.withProse, some (unmark payload)) :=
    Parts.extract_own_sentence writable written (by decide)
  rw [lead, reading_of_blockless (begun.find_eq writable.name) resolves, begun.isRequired_eq, tags,
    readDefault_of_absent noDefault]
  simp only [Error.ok_bind]
  by_cases inside : oneOfLead <:+: unmark payload
  · rw [if_pos inside] at listed ⊢
    rw [readShape_of_error noType listed]
    rfl
  · rw [if_neg inside] at listed ⊢
    rw [readShape_of_absent noType listed]
    simp only [Error.ok_bind, found]
    rfl

/-- The literal of the default is what was put in, without its marker words. -/
theorem reading_preset (writable : parts.Writable) (quotable : Quotable defaultPhrase payload)
    (resolves : Reference.interpret raw = (context, name)) :
    (standard builder false).reading raw (parts.withProse ++ sentence defaultLead payload) =
      Parts.conclude builder context name []
        { name := parts.name, prose := parts.prose, default? := some (unmark payload) } := by
  have lead : defaultLead = defaultPhrase ++ [backtick] := rfl
  have begun := Parts.begins_sentence writable quotable
  have tags := Parts.stripTags_sentence writable quotable (by decide)
  have found : Comment.extractDefault
      (parts.withProse ++ sentence (defaultPhrase ++ [backtick]) (unmark payload)) =
        (parts.withProse, some (unmark payload)) :=
    Parts.extract_own_sentence writable quotable.unmark (by decide)
  have nothing : parts.Arranged [] := ⟨List.nodup_nil, List.forall_mem_nil _⟩
  have prose : parts.arrange [] = parts.withProse := by simp [Parts.arrange, Parts.sentences]
  have noShape : ((standard builder false).readShape name context parts.withProse).outcome =
      .ok (parts.withProse, .declared) :=
    prose ▸ readShape_of_not_mem writable nothing List.not_mem_nil
  have noSample : Comment.extractExample parts.withProse = (parts.withProse, none) :=
    prose ▸ Parts.extractExample_arrange writable nothing (List.forall_mem_nil _)
  rw [lead, reading_of_blockless (begun.find_eq writable.name) resolves, begun.isRequired_eq, tags,
    readDefault_of_found { parts with default? := some (unmark payload) } found, Parts.conclude,
    bind_assoc]
  refine bind_congr fun value? => ?_
  simp only [Error.ok_bind, noShape, noSample]
  rfl

theorem annotate_sample (writable : parts.Writable) (quotable : Quotable examplePhrase payload)
    (builder : Builder) (raw : Option Text) (definition : Definition) :
    let sampled := (standard builder false).annotate raw
      (parts.withProse ++ sentence exampleLead payload) definition
    ((∃ info, sampled.2 = .ok info) ↔ ¬ oneOfLead <:+: unmark payload) ∧
      ∀ info, sampled.2 = .ok info → sampled.1.examples = [unmark payload] := by
  intro sampled
  rcases resolves : Reference.interpret raw with ⟨context, name⟩
  have entered : sampled = _ := annotate_eq (standard builder false) raw _ rfl definition
  rw [reading_sample writable quotable resolves] at entered
  rw [entered]
  by_cases inside : oneOfLead <:+: unmark payload
  · rw [if_pos inside]
    simp [inside]
  · rw [if_neg inside]
    exact ⟨iff_of_true ⟨_, rfl⟩ inside, fun info _ => rfl⟩

theorem annotate_preset (writable : parts.Writable) (quotable : Quotable defaultPhrase payload)
    (builder : Builder) (raw : Option Text) (definition : Definition) :
    let preset := (standard builder false).annotate raw
      (parts.withProse ++ sentence defaultLead payload) definition
    ((∃ info, preset.2 = .ok info) ↔ ∃ value, Literal.read (unmark payload) = .ok value) ∧
      ∀ info, preset.2 = .ok info →
        ∃ value, Literal.read (unmark payload) = .ok value ∧ preset.1.default = value := by
  intro preset
  rcases resolves : Reference.interpret raw with ⟨context, name⟩
  have entered : preset = _ := annotate_eq (standard builder false) raw _ rfl definition
  rw [reading_preset writable quotable resolves, Parts.conclude, Parts.value] at entered
  cases read : Literal.read (unmark payload) with
  | error error =>
      have failed : preset.2 = .error (defaultError (unmark payload) name error) := by
        rw [entered]
        simp only [read]
        rfl
      simp [failed]
  | ok value =>
      rw [entered]
      simp only [read]
      exact ⟨iff_of_true ⟨_, rfl⟩ ⟨value, rfl⟩, fun info _ => ⟨value, rfl, rfl⟩⟩

/-- A payload in one line and without backticks is read as it is, but for its marker words.  As
an example it stops a run only by the lead of a list, and as a default only by being no literal. -/
theorem annotate_payload {name prose payload : Text} (writable : Parts.Writable { name, prose })
    (line : '\n' ∉ payload) (unticked : backtick ∉ payload) (builder : Builder)
    (raw : Option Text) (definition : Definition) :
    let annotate comment := (standard builder false).annotate raw comment definition
    let sampled := annotate (Parts.write { name, prose, example? := some payload })
    let preset := annotate (Parts.write { name, prose, default? := some payload })
    let written := unmark payload
    ((∃ info, sampled.2 = .ok info) ↔ ¬ oneOfLead <:+: written) ∧
      (∀ info, sampled.2 = .ok info → sampled.1.examples = [written]) ∧
      ((∃ info, preset.2 = .ok info) ↔ ∃ value, Literal.read written = .ok value) ∧
      (∀ info, preset.2 = .ok info →
        ∃ value, Literal.read written = .ok value ∧ preset.1.default = value) ∧
      ((∀ mark ∈ Comment.marks, ¬ mark <:+: payload) → written = payload) := by
  intro annotate sampled preset written
  have sample : Parts.write { name, prose, example? := some payload } =
      Parts.withProse { name, prose } ++ sentence exampleLead payload := by
    simp [Parts.write, Parts.withType, Parts.withExample, Comment.TypePart.sentence,
      Comment.sentence?, Parts.withProse]
  have default : Parts.write { name, prose, default? := some payload } =
      Parts.withProse { name, prose } ++ sentence defaultLead payload := by
    simp [Parts.write, Parts.withType, Parts.withExample, Comment.TypePart.sentence,
      Comment.sentence?, Parts.withProse]
  simp only [sampled, preset, annotate, sample, default]
  obtain ⟨finds, found⟩ := annotate_sample writable ⟨by decide, by decide, line, unticked⟩
    builder raw definition
  obtain ⟨reads, read⟩ := annotate_preset writable ⟨by decide, by decide, line, unticked⟩
    builder raw definition
  exact ⟨finds, found, reads, read, Comment.unmark_of_unmarked⟩

end

theorem bareParts_writable : Parts.Writable { name := "N".toList, prose := "bar.".toList } where
  name := by
    have visible : "N".toList.any Text.isBlank = false := by decide
    exact ⟨by decide, by simpa using visible, by decide, by decide⟩
  prose := ⟨by decide, by decide, by decide⟩
  proseNonempty := by decide
  proseTrimmed := by decide
  example? := fun text written => nomatch written
  types := fun text written => nomatch written
  listed := fun same => nomatch same
  default? := fun text written => nomatch written

def quotedClause : Text := "\"Defaults to 7\"".toList

/-- A payload that looks like another clause is read as what it is. -/
theorem annotate_payload_quotedClause :
    Parts.Writable { name := "N".toList, prose := "bar.".toList } ∧
      '\n' ∉ quotedClause ∧ backtick ∉ quotedClause ∧
      ((standard {} false).annotate (some "N".toList) (Parts.write
        { name := "N".toList, prose := "bar.".toList, example? := some quotedClause })
          {}).1.examples = [quotedClause] ∧
      ((standard {} false).annotate (some "N".toList) (Parts.write
        { name := "N".toList, prose := "bar.".toList, default? := some quotedClause })
          {}).1.default = .str "Defaults to 7".toList := by
  have line : '\n' ∉ quotedClause := by decide
  have unticked : backtick ∉ quotedClause := by decide
  have unmarked : unmark quotedClause = quotedClause := by decide
  have literal : Literal.read quotedClause = .ok (.str "Defaults to 7".toList) := rfl
  have payload := annotate_payload bareParts_writable line unticked {} (some "N".toList) {}
  simp only [unmarked] at payload
  obtain ⟨finds, found, reads, read, -⟩ := payload
  obtain ⟨info, sampled⟩ := finds.mpr (by decide)
  obtain ⟨info', preset⟩ := reads.mpr ⟨_, literal⟩
  obtain ⟨value, same, default⟩ := read info' preset
  cases literal.symm.trans same
  exact ⟨bareParts_writable, line, unticked, found info sampled, default⟩

/-- A marker word inside a payload is taken out as everywhere. -/
theorem annotate_unmarks_payload :
    ((standard {} false).annotate (some "N".toList)
        "N is the bar. For example: \x60a+requiredb\x60.".toList {}).2 = .ok {} ∧
      ((standard {} false).annotate (some "N".toList)
        "N is the bar. For example: \x60a+requiredb\x60.".toList {}).1.examples =
          ["ab".toList] ∧
      Literal.read "\"a+requiredb\"".toList = .ok (.str "a+requiredb".toList) ∧
      ((standard {} false).annotate (some "N".toList)
        "N is the bar. Defaults to \x60\"a+requiredb\"\x60.".toList {}).2 = .ok {} ∧
      ((standard {} false).annotate (some "N".toList)
        "N is the bar. Defaults to \x60\"a+requiredb\"\x60.".toList {}).1.default =
          .str "ab".toList := by
  exact ⟨by decide +kernel, by decide +kernel, rfl, by decide +kernel,
    Value.same_str_iff.mp (by decide +kernel)⟩

end Interpreter

end CommentSchema
