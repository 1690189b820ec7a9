import CommentSchema.Comment.EnumBlock
import CommentSchema.Comment.Paraphrase
import CommentSchema.Comment.Tags
import CommentSchema.Proofs.Clause

/-! Comments that are written from their parts: the name and the prose, and behind them at most
one sentence for the example, one for the type and one for the default, in any order.  Such a
comment is one line without enum block and marker words, and a word that the parts may not have
can only stand in the fixed pieces of its sentences. -/

namespace CommentSchema.Comment

inductive TypePart where
  | unstated
  | override (type : Text)
  | oneOf (types : List Text)

namespace TypePart

def types : TypePart → List Text
  | unstated => []
  | override type => [type]
  | oneOf types => types

def sentence : TypePart → Text
  | unstated => []
  | override type => Comment.sentence typeLead type
  | oneOf types => oneOfSentence types

end TypePart

structure Parts where
  name : Text
  prose : Text
  example? : Option Text := none
  type : TypePart := .unstated
  default? : Option Text := none

/-- The words that a part must not have, since they mean something to a reader of comments. -/
def phrases : List Text :=
  [requiredMark, optionalMark, "Defaults to ".toList, "Schema type is ".toList,
    "For example: ".toList]

/-- A text in one line, without backticks and without the words that mean something. -/
structure Plain (text : Text) : Prop where
  line : '\n' ∉ text
  unticked : backtick ∉ text
  free : ∀ phrase ∈ phrases, ¬ phrase <:+: text

structure PlainName (name : Text) : Prop where
  nonempty : name ≠ []
  visible : ∀ c ∈ name, Text.isBlank c = false
  unticked : backtick ∉ name
  unmarked : '+' ∉ name

namespace Parts

/-- The parts can be put into one comment. -/
structure Sound (parts : Parts) : Prop where
  name : PlainName parts.name
  prose : Plain parts.prose
  proseNonempty : parts.prose ≠ []
  proseTrimmed : Text.trim parts.prose = parts.prose
  example? : ∀ text ∈ parts.example?, Plain text
  types : ∀ text ∈ parts.type.types, Plain text
  listed : ∀ types, parts.type = .oneOf types → types ≠ [] ∧ ∀ text ∈ types, text ≠ []
  default? : ∀ text ∈ parts.default?, Plain text

def proseLead : Text := " is the ".toList

def withProse (parts : Parts) : Text := parts.name ++ (proseLead ++ parts.prose)

def withExample (parts : Parts) : Text :=
  parts.withProse ++ sentence? exampleLead parts.example?

def withType (parts : Parts) : Text := parts.withExample ++ parts.type.sentence

def write (parts : Parts) : Text := parts.withType ++ sentence? defaultLead parts.default?

end Parts

namespace Parts

/-- The parts can be put into one comment, in any order.  A list may have empty entries. -/
structure Writable (parts : Parts) : Prop where
  name : PlainName parts.name
  prose : Plain parts.prose
  proseNonempty : parts.prose ≠ []
  proseTrimmed : Text.trim parts.prose = parts.prose
  example? : ∀ text ∈ parts.example?, Plain text
  types : ∀ text ∈ parts.type.types, Plain text
  listed : parts.type ≠ .oneOf []
  default? : ∀ text ∈ parts.default?, Plain text

theorem Sound.writable {parts : Parts} (sound : parts.Sound) : parts.Writable where
  name := sound.name
  prose := sound.prose
  proseNonempty := sound.proseNonempty
  proseTrimmed := sound.proseTrimmed
  example? := sound.example?
  types := sound.types
  listed := fun same => (sound.listed [] same).1 rfl
  default? := sound.default?

/-- What a sentence behind the prose is about. -/
inductive Slot where
  | sample
  | type
  | default
deriving DecidableEq

def sentenceAt (parts : Parts) : Slot → Text
  | .sample => sentence? exampleLead parts.example?
  | .type => parts.type.sentence
  | .default => sentence? defaultLead parts.default?

def sentences (parts : Parts) (order : List Slot) : Text := order.flatMap parts.sentenceAt

/-- The comment with its sentences in some order. -/
def arrange (parts : Parts) (order : List Slot) : Text := parts.withProse ++ parts.sentences order

/-- The slots that have a sentence, in the order in which they are written. -/
def selected (parts : Parts) : List Slot :=
  [.sample, .type, .default].filter fun slot => !(parts.sentenceAt slot).isEmpty

theorem arrange_selected (parts : Parts) : parts.arrange parts.selected = parts.write := by
  have nothing : ∀ order : List Slot,
      (order.filter fun slot => !(parts.sentenceAt slot).isEmpty).flatMap parts.sentenceAt =
        order.flatMap parts.sentenceAt := by
    intro order
    induction order with
    | nil => rfl
    | cons slot rest ih =>
        cases empty : (parts.sentenceAt slot).isEmpty with
        | false => simp [empty, ih]
        | true =>
            have gone : parts.sentenceAt slot = [] := by simpa using empty
            simp [gone, ih]
  rw [arrange, sentences, selected, nothing, write, withType, withExample]
  simp [sentenceAt]

end Parts

/-- The fixed parts of the sentence about the type, each with the backtick that ends it. -/
def TypePart.fixed : TypePart → List Text
  | .unstated => []
  | .override _ => [' ' :: typeLead, ['.']]
  | .oneOf _ => [' ' :: oneOfLead ++ [backtick], [',', ' ', backtick], ['.']]

/-- A word that cannot occur in a plain text, nor in one with a backtick behind it, nor in the
name of a field. -/
def guarded (word : Text) : Bool :=
  (phrases.any fun phrase =>
    word == phrase ++ [backtick] || (phrase.isPrefixOf word && Text.keepsOut word [backtick])) &&
  word.any fun c => Text.isBlank c || c == '+'

/-- A guarded word that the fixed parts of a comment do not touch either. -/
def foreign (word : Text) (fixed : List Text) : Bool :=
  guarded word && fixed.all (Text.keepsOut word)

theorem ne_nil_of_guarded {word : Text} (isGuarded : guarded word) : word ≠ [] := by
  intro same
  cases same
  simp [guarded] at isGuarded

theorem not_infix_nil_of_guarded {word : Text} (isGuarded : guarded word) :
    ¬ word <:+: ([] : Text) := by
  rw [List.infix_nil]
  exact ne_nil_of_guarded isGuarded

theorem Plain.not_infix_ticked {text word : Text} (plain : Plain text)
    (isGuarded : guarded word) : ¬ word <:+: text ++ [backtick] := by
  have nothing := not_infix_nil_of_guarded isGuarded
  rw [guarded, Bool.and_eq_true, List.any_eq_true] at isGuarded
  obtain ⟨⟨phrase, member, covered⟩, -⟩ := isGuarded
  have free := plain.free phrase member
  rw [Bool.or_eq_true, beq_iff_eq, Bool.and_eq_true, List.isPrefixOf_iff_prefix] at covered
  rcases covered with rfl | ⟨begins, keepsOut⟩
  · exact Text.not_infix_concat plain.unticked free
  · have absent : ¬ word <:+: text := fun found => free (begins.isInfix.trans found)
    simpa using Text.not_infix_of_keepsOut keepsOut absent nothing

theorem Plain.not_infix_stop {text word : Text} (plain : Plain text) (isGuarded : guarded word)
    (keeps : Text.keepsOut word ['.']) : ¬ word <:+: text ++ stop := by
  have ended := Text.not_infix_of_keepsOut keeps (plain.not_infix_ticked isGuarded)
    (not_infix_nil_of_guarded isGuarded)
  simpa [stop] using ended

theorem Plain.not_infix {text word : Text} (plain : Plain text) (isGuarded : guarded word) :
    ¬ word <:+: text := fun found =>
  plain.not_infix_ticked isGuarded (found.trans (List.prefix_append text [backtick]).isInfix)

theorem PlainName.not_infix {name word : Text} (plain : PlainName name)
    (isGuarded : guarded word) : ¬ word <:+: name := by
  rw [guarded, Bool.and_eq_true] at isGuarded
  obtain ⟨c, member, marked⟩ := List.any_eq_true.mp isGuarded.2
  refine Text.not_infix_of_not_mem member fun inName => ?_
  rw [Bool.or_eq_true, beq_iff_eq] at marked
  rcases marked with blank | rfl
  · rw [plain.visible c inName] at blank
    cases blank
  · exact plain.unmarked inName

section

variable {word text : Text}

theorem keepsOut_of_foreign {fixed : List Text} (isForeign : foreign word fixed) (part : Text)
    (member : part ∈ fixed) : Text.keepsOut word part := by
  rw [foreign, Bool.and_eq_true, List.all_eq_true] at isForeign
  exact isForeign.2 part member

theorem guarded_of_foreign {fixed : List Text} (isForeign : foreign word fixed) :
    guarded word := by
  rw [foreign, Bool.and_eq_true] at isForeign
  exact isForeign.1

theorem not_infix_append_sentence {lead payload : Text}
    (isForeign : foreign word [' ' :: lead, ['.']]) (absent : ¬ word <:+: text)
    (plain : Plain payload) : ¬ word <:+: text ++ sentence lead payload := by
  have isGuarded := guarded_of_foreign isForeign
  have keepsLead := keepsOut_of_foreign isForeign (' ' :: lead) (by simp)
  have keepsStop := keepsOut_of_foreign isForeign ['.'] (by simp)
  have ended := plain.not_infix_stop isGuarded keepsStop
  have whole := Text.not_infix_of_keepsOut keepsLead absent ended
  simpa [sentence, stop] using whole

theorem not_infix_append_sentence? {lead : Text} {payload? : Option Text}
    (isForeign : foreign word [' ' :: lead, ['.']]) (absent : ¬ word <:+: text)
    (plain : ∀ payload ∈ payload?, Plain payload) :
    ¬ word <:+: text ++ sentence? lead payload? := by
  cases payload? with
  | none => simpa [sentence?] using absent
  | some payload => exact not_infix_append_sentence isForeign absent (plain payload rfl)

theorem not_infix_append_typeSentence {type : TypePart} (isForeign : foreign word type.fixed)
    (absent : ¬ word <:+: text) (plain : ∀ payload ∈ type.types, Plain payload)
    (listed : ∀ types, type = .oneOf types → types ≠ []) :
    ¬ word <:+: text ++ type.sentence := by
  cases type with
  | unstated => simpa [TypePart.sentence] using absent
  | override type =>
      exact not_infix_append_sentence isForeign absent (plain type (by simp [TypePart.types]))
  | oneOf types =>
      have isGuarded := guarded_of_foreign isForeign
      have keeps := keepsOut_of_foreign isForeign
      cases types with
      | nil => exact absurd rfl (listed [] rfl)
      | cons first rest =>
          have payloads := not_infix_listing (ne_nil_of_guarded isGuarded)
            (keeps _ (by simp [TypePart.fixed])) (keeps _ (by simp [TypePart.fixed]))
            fun payload member => (plain payload member).not_infix_ticked isGuarded
          have whole := Text.not_infix_of_keepsOut (keeps (' ' :: oneOfLead ++ [backtick])
            (by simp [TypePart.fixed])) absent payloads
          simpa [TypePart.sentence, oneOfSentence, listing_cons] using whole

end

namespace Parts

/-- The fixed pieces of the sentence in a slot. -/
def fixedAt (parts : Parts) : Slot → List Text
  | .sample => [' ' :: exampleLead, ['.']]
  | .type => parts.type.fixed
  | .default => [' ' :: defaultLead, ['.']]

/-- The fixed pieces that the sentence in a slot may have, whatever it is about the type. -/
def pieces : Slot → List Text
  | .sample => [' ' :: exampleLead, ['.']]
  | .type => [' ' :: typeLead, ' ' :: oneOfLead ++ [backtick], [',', ' ', backtick], ['.']]
  | .default => [' ' :: defaultLead, ['.']]

variable {parts : Parts} {word : Text}

theorem fixedAt_subset (parts : Parts) (slot : Slot) : parts.fixedAt slot ⊆ pieces slot := by
  cases slot with
  | sample | default => exact List.Subset.refl _
  | type =>
      unfold fixedAt
      cases parts.type with
      | unstated | override | oneOf => simp [TypePart.fixed, pieces]

theorem foreign_fixedAt {slot : Slot} (isForeign : foreign word (pieces slot)) :
    foreign word (parts.fixedAt slot) := by
  rw [foreign, Bool.and_eq_true, List.all_eq_true] at isForeign ⊢
  exact ⟨isForeign.1, fun piece member => isForeign.2 piece (fixedAt_subset parts slot member)⟩

theorem not_infix_withProse (writable : parts.Writable) (isForeign : foreign word [proseLead]) :
    ¬ word <:+: parts.withProse := by
  have isGuarded := guarded_of_foreign isForeign
  exact Text.not_infix_of_keepsOut (keepsOut_of_foreign isForeign proseLead (by simp))
    (writable.name.not_infix isGuarded) (writable.prose.not_infix isGuarded)

theorem not_infix_append_slot {slot : Slot} {text : Text} (writable : parts.Writable)
    (isForeign : foreign word (parts.fixedAt slot)) (absent : ¬ word <:+: text) :
    ¬ word <:+: text ++ parts.sentenceAt slot := by
  cases slot with
  | sample => exact not_infix_append_sentence? isForeign absent writable.example?
  | type =>
      exact not_infix_append_typeSentence isForeign absent writable.types
        fun types same empty => writable.listed (same.trans (congrArg _ empty))
  | default => exact not_infix_append_sentence? isForeign absent writable.default?

theorem not_infix_append_sentences {order : List Slot} {text : Text} (writable : parts.Writable)
    (each : ∀ slot ∈ order, foreign word (parts.fixedAt slot)) (absent : ¬ word <:+: text) :
    ¬ word <:+: text ++ parts.sentences order := by
  induction order generalizing text with
  | nil => simpa [sentences] using absent
  | cons slot rest ih =>
      rw [List.forall_mem_cons] at each
      have whole := ih each.2 (not_infix_append_slot writable each.1 absent)
      simpa [sentences] using whole

theorem not_infix_arrange {order : List Slot} (writable : parts.Writable)
    (prose : foreign word [proseLead])
    (each : ∀ slot ∈ order, foreign word (parts.fixedAt slot)) :
    ¬ word <:+: parts.arrange order :=
  not_infix_append_sentences writable each (not_infix_withProse writable prose)

theorem not_mem_sentence {lead payload : Text} (leadLine : '\n' ∉ lead)
    (plain : Plain payload) : '\n' ∉ sentence lead payload := by
  simp [sentence, leadLine, plain.line, backtick]

theorem not_mem_sentence? {lead : Text} {payload? : Option Text} (leadLine : '\n' ∉ lead)
    (plain : ∀ payload ∈ payload?, Plain payload) : '\n' ∉ sentence? lead payload? := by
  cases payload? with
  | none => exact List.not_mem_nil
  | some payload => exact not_mem_sentence leadLine (plain payload rfl)

theorem not_mem_listing {texts : List Text} (plain : ∀ text ∈ texts, Plain text) :
    '\n' ∉ listing texts := by
  induction texts with
  | nil => decide
  | cons text rest ih =>
      rw [List.forall_mem_cons] at plain
      have others := ih plain.2
      cases rest with
      | nil => simp [listing_cons, listingTail, plain.1.line, backtick]
      | cons next others => simp_all [listing_cons, listingTail, plain.1.line, backtick]

theorem not_mem_typeSentence {type : TypePart} (plain : ∀ text ∈ type.types, Plain text) :
    '\n' ∉ type.sentence := by
  cases type with
  | unstated => exact List.not_mem_nil
  | override type =>
      have lead : '\n' ∉ typeLead := by decide
      exact not_mem_sentence lead (plain type (by simp [TypePart.types]))
  | oneOf types =>
      have lead : '\n' ∉ oneOfLead := by decide
      have payloads : '\n' ∉ listing types := not_mem_listing plain
      simp [TypePart.sentence, oneOfSentence, payloads, lead]

theorem not_mem_sentenceAt (writable : parts.Writable) (slot : Slot) :
    '\n' ∉ parts.sentenceAt slot := by
  cases slot with
  | sample => exact not_mem_sentence? (by decide) writable.example?
  | type => exact not_mem_typeSentence writable.types
  | default => exact not_mem_sentence? (by decide) writable.default?

theorem line_arrange (writable : parts.Writable) (order : List Slot) :
    '\n' ∉ parts.arrange order := by
  have name : '\n' ∉ parts.name := by
    intro member
    have visible := writable.name.visible _ member
    cases visible
  have proseLead : '\n' ∉ proseLead := by decide
  have behind : '\n' ∉ parts.sentences order := by
    intro member
    obtain ⟨slot, -, inSentence⟩ := List.mem_flatMap.mp member
    exact not_mem_sentenceAt writable slot inSentence
  simp only [arrange, withProse, List.mem_append, not_or]
  exact ⟨⟨name, proseLead, writable.prose.line⟩, behind⟩

theorem firm_name {name : Text} (plain : PlainName name) : Text.Firm name where
  first := by
    obtain ⟨c, rest, rfl⟩ := List.exists_cons_of_ne_nil plain.nonempty
    exact ⟨c, rest, rfl, plain.visible c (by simp)⟩
  last := by
    refine ⟨_, _, (List.dropLast_append_getLast plain.nonempty).symm, ?_⟩
    exact plain.visible _ (List.getLast_mem plain.nonempty)

theorem firm_withProse (writable : parts.Writable) : Text.Firm parts.withProse := by
  obtain ⟨rest, c, ends, visible⟩ :=
    (Text.firm_of_trim_eq writable.proseNonempty writable.proseTrimmed).last
  refine (firm_name writable.name).append ⟨proseLead ++ rest, c, ?_, visible⟩
  rw [ends, List.append_assoc]

theorem stops_listing (text : Text) (rest : List Text) :
    ∃ front, listing (text :: rest) = front ++ stop := by
  induction rest generalizing text with
  | nil => exact ⟨backtick :: text, by simp [listing, stop]⟩
  | cons next others ih =>
      obtain ⟨front, ends⟩ := ih next
      refine ⟨backtick :: (text ++ backtick :: ',' :: ' ' :: front), ?_⟩
      rw [listing_cons, listingTail, ends]
      · simp
      · simp

/-- The sentence in a slot ends as all do, where there is one. -/
theorem stops_sentenceAt (writable : parts.Writable) {slot : Slot}
    (chosen : parts.sentenceAt slot ≠ []) : ∃ front, parts.sentenceAt slot = front ++ stop := by
  have stops : ∀ lead payload, sentence lead payload = ' ' :: lead ++ payload ++ stop := by
    simp [sentence, stop]
  have stops? : ∀ lead payload?, sentence? lead payload? ≠ [] →
      ∃ front, sentence? lead payload? = front ++ stop := by
    intro lead payload? chosen
    cases payload? with
    | none => exact absurd rfl chosen
    | some payload => exact ⟨_, stops lead payload⟩
  cases slot with
  | sample | default => exact stops? _ _ chosen
  | type =>
      have listed := writable.listed
      unfold sentenceAt at chosen ⊢
      cases stated : parts.type with
      | unstated =>
          rw [stated] at chosen
          exact absurd rfl chosen
      | override type => exact ⟨_, stops typeLead type⟩
      | oneOf types =>
          cases types with
          | nil => exact absurd stated listed
          | cons text rest =>
              obtain ⟨front, ends⟩ := stops_listing text rest
              refine ⟨' ' :: oneOfLead ++ front, ?_⟩
              simp [TypePart.sentence, oneOfSentence, ends]

theorem firm_append_sentences {text : Text} (writable : parts.Writable) (firm : Text.Firm text)
    (order : List Slot) : Text.Firm (text ++ parts.sentences order) := by
  induction order generalizing text with
  | nil => simpa [sentences] using firm
  | cons slot rest ih =>
      have first : Text.Firm (text ++ parts.sentenceAt slot) := by
        by_cases chosen : parts.sentenceAt slot = []
        · simpa [chosen] using firm
        · obtain ⟨front, ends⟩ := stops_sentenceAt writable chosen
          exact firm.append ⟨front ++ [backtick], '.', by simp [ends, stop], rfl⟩
      simpa [sentences] using ih first

theorem firm_arrange (writable : parts.Writable) (order : List Slot) :
    Text.Firm (parts.arrange order) :=
  firm_append_sentences writable (firm_withProse writable) order

end Parts

theorem isRequired_of_line {text : Text} (line : '\n' ∉ text) :
    isRequired text = demandsField text := by
  simp [isRequired, Text.lines, Text.split_of_not_mem line]

theorem stripTags_of_line {text : Text} (line : '\n' ∉ text) (kept : isMarker text = false) :
    stripTags text = Text.trim (Text.erase optionalMark (Text.erase requiredMark text)) := by
  simp [stripTags, Text.lines, Text.split_of_not_mem line, kept]

namespace Parts

variable {parts : Parts}

/-- A line that begins with the name and the prose. -/
structure Begins (parts : Parts) (text : Text) : Prop where
  begins : parts.withProse <+: text
  line : '\n' ∉ text
  firm : Text.Firm text

namespace Begins

variable {text : Text}

theorem not_isMarker (begun : parts.Begins text) : isMarker text = false := by
  have inLead : ' ' ∈ proseLead := by decide
  have blank : ' ' ∈ text := begun.begins.subset (by simp [withProse, inLead])
  simp only [isMarker, demandsField, Bool.or_eq_false_iff, beq_eq_false_iff_ne]
  refine ⟨⟨?_, ?_⟩, ?_⟩
  all_goals
    intro same
    rw [same] at blank
    revert blank
    decide

theorem isRequired_eq (begun : parts.Begins text) : isRequired text = false := by
  have kept := begun.not_isMarker
  rw [isMarker, Bool.or_eq_false_iff] at kept
  rw [isRequired_of_line begun.line, kept.1]

theorem stripTags_eq (begun : parts.Begins text) :
    stripTags text = Text.trim (Text.erase optionalMark (Text.erase requiredMark text)) :=
  stripTags_of_line begun.line begun.not_isMarker

/-- The first word of the comment is the name, and the words of a header are others. -/
theorem not_isHeader (begun : parts.Begins text) (name : PlainName parts.name) :
    EnumBlock.isHeader text = false := by
  have visible : ∀ c ∈ parts.name, (!Text.isBlank c) = true := by
    intro c member
    rw [name.visible c member]
    rfl
  have second : proseLead.isPrefixOf (text.dropWhile (!Text.isBlank ·)) := by
    obtain ⟨behind, same⟩ := begun.begins
    rw [List.isPrefixOf_iff_prefix, ← same, withProse, List.append_assoc, List.append_assoc,
      List.dropWhile_append_of_pos visible]
    exact List.prefix_append _ _
  rw [EnumBlock.isHeader, begun.firm.trim_eq]
  by_contra isHeader
  rw [Bool.not_eq_false, List.contains_iff_mem] at isHeader
  have others : ∀ header ∈ EnumBlock.headers,
      proseLead.isPrefixOf (header.dropWhile (!Text.isBlank ·)) = false := by decide
  rw [others _ isHeader] at second
  cases second

theorem find_eq (begun : parts.Begins text) (name : PlainName parts.name) :
    EnumBlock.find text = .ok none := by
  simp [EnumBlock.find, Text.lines, Text.split_of_not_mem begun.line, EnumBlock.splitHeader?,
    begun.not_isHeader name]

end Begins

/-- A line that begins with the name and the prose and that has no marker word. -/
structure Opens (parts : Parts) (text : Text) : Prop extends parts.Begins text where
  required : ¬ requiredMark <:+: text
  optional : ¬ optionalMark <:+: text

theorem opens_arrange (writable : parts.Writable) (order : List Slot) :
    parts.Opens (parts.arrange order) where
  begins := List.prefix_append _ _
  line := line_arrange writable order
  firm := firm_arrange writable order
  required := by
    refine not_infix_arrange writable (by decide) fun slot _ => foreign_fixedAt ?_
    cases slot with
    | sample | type | default => decide
  optional := by
    refine not_infix_arrange writable (by decide) fun slot _ => foreign_fixedAt ?_
    cases slot with
    | sample | type | default => decide

theorem Opens.stripTags_eq {text : Text} (opens : parts.Opens text) : stripTags text = text := by
  rw [opens.toBegins.stripTags_eq, Text.erase_of_not_infix opens.required,
    Text.erase_of_not_infix opens.optional, opens.firm.trim_eq]

theorem removeName_withProse (name : PlainName parts.name) :
    removeName parts.name parts.withProse = parts.prose := by
  have named : parts.name.isEmpty = false := by simpa using name.nonempty
  have whole : parts.withProse = parts.name ++ [' '] ++ ("is the ".toList ++ parts.prose) := by
    rw [List.append_assoc]
    rfl
  have verb : dropVerb ("is the ".toList ++ parts.prose) = parts.prose := by
    simp only [dropVerb, verbs, List.map_cons, List.findSome?_cons, Text.isPrefixOf?_append,
      Option.getD_some]
  rw [removeName, named, whole, Text.isPrefixOf?_append]
  simp only [Bool.false_eq_true, if_false]
  exact verb

end Parts

end CommentSchema.Comment
