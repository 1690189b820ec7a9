import CommentSchema.Comment.Clause
import CommentSchema.Proofs.Text.Occurrence
import CommentSchema.Proofs.Text.Trimming

/-! What the clause readers find on a single line: nothing where the lead does not occur, and
at the last occurrence of the lead the payload that was put there. -/

namespace CommentSchema.Comment

theorem toLastBacktick?_eq_none {text : Text} (absent : backtick ∉ text) :
    toLastBacktick? text = none := by
  induction text with
  | nil => rfl
  | cons c rest ih =>
      rw [List.mem_cons, not_or] at absent
      simp only [toLastBacktick?, ih absent.2, beq_iff_eq, if_neg (Ne.symm absent.1)]

theorem toLastBacktick?_append (payload : Text) {after : Text} (absent : backtick ∉ after) :
    toLastBacktick? (payload ++ backtick :: after) = some payload := by
  induction payload with
  | nil => simp only [List.nil_append, toLastBacktick?, toLastBacktick?_eq_none absent,
      beq_self_eq_true, if_true]
  | cons c payload ih => simp only [List.cons_append, toLastBacktick?, ih]

theorem clauseInLine?_eq_none {lead line : Text} (absent : ¬ lead <:+: line) :
    clauseInLine? lead line = none := by
  induction line with
  | nil => rfl
  | cons c rest ih =>
      rw [List.infix_cons_iff, not_or] at absent
      simp only [clauseInLine?, ih absent.2, Text.isPrefixOf?_eq_none absent.1]

theorem clauseInLine?_append {lead line before payload : Text} (front : Text)
    (found : clauseInLine? lead line = some (before, payload)) :
    clauseInLine? lead (front ++ line) = some (front ++ before, payload) := by
  induction front with
  | nil => exact found
  | cons c front ih => simp only [List.cons_append, clauseInLine?, ih]

theorem clauseInLine?_of_last {lead after payload : Text} (nonempty : lead ≠ [])
    (last : clauseInLine? lead (lead.tail ++ after) = none)
    (ends : toLastBacktick? after = some payload) :
    clauseInLine? lead (lead ++ after) = some ([], payload) := by
  cases lead with
  | nil => exact absurd rfl nonempty
  | cons c lead =>
      have found := Text.isPrefixOf?_append (c :: lead) after
      rw [List.tail_cons] at last
      rw [List.cons_append] at found ⊢
      simp only [clauseInLine?, last, found, ends, Option.map_some]

theorem extract_of_line {lead text : Text} (line : '\n' ∉ text) :
    extract lead text =
      match clauseInLine? lead text with
      | some (before, payload) => (Text.trim before, some payload)
      | none => (text, none) := by
  unfold extract Text.lines
  rw [Text.split_of_not_mem line, List.findSome?_cons, List.findSome?_nil]
  cases clauseInLine? lead text <;> rfl

theorem extract_absent {lead description : Text} (line : '\n' ∉ description)
    (absent : ¬ lead <:+: description) : extract lead description = (description, none) := by
  rw [extract_of_line line, clauseInLine?_eq_none absent]

/-- A clause with its payload, as a sentence of its own behind a description. -/
def sentence (lead payload : Text) : Text := ' ' :: lead ++ (payload ++ [backtick, '.'])

def sentence? (lead : Text) (payload? : Option Text) : Text :=
  (payload?.map (sentence lead)).getD []

/-- The backtick and the full stop that end a sentence. -/
def stop : Text := [backtick, '.']

/-- A payload and the text behind its sentence, up to the last stop. -/
def runOn (payload after : Text) : Text := (payload ++ (stop ++ after)).rdrop 2

/-- A payload with a last stop behind it runs on to that. -/
theorem runOn_eq {payload after front : Text}
    (ends : payload ++ (stop ++ after) = front ++ stop) : runOn payload after = front := by
  rw [runOn, ends, List.rdrop_eq_reverse_drop_reverse]
  simp [stop]

@[simp] theorem runOn_nil (payload : Text) : runOn payload [] = payload :=
  runOn_eq (by rw [List.append_nil])

theorem extract_sentence {lead payload after description : Text} (nonempty : lead ≠ [])
    (single : Text.neverBegins lead lead.tail) (absent : ¬ lead <:+: payload ++ (stop ++ after))
    (ends : ∃ front, payload ++ (stop ++ after) = front ++ stop) (firm : Text.Firm description)
    (line : '\n' ∉ description ++ (sentence lead payload ++ after)) :
    extract lead (description ++ (sentence lead payload ++ after)) =
      (description, some (runOn payload after)) := by
  obtain ⟨front, ends⟩ := ends
  have toEnd : toLastBacktick? (payload ++ (stop ++ after)) = some front := by
    rw [ends]
    exact toLastBacktick?_append front (by decide)
  have last : clauseInLine? lead (lead.tail ++ (payload ++ (stop ++ after))) = none :=
    clauseInLine?_eq_none (Text.not_infix_fixed_append single absent)
  have found := clauseInLine?_append (description ++ [' '])
    (clauseInLine?_of_last nonempty last toEnd)
  have whole : description ++ (sentence lead payload ++ after) =
      description ++ [' '] ++ (lead ++ (payload ++ (stop ++ after))) := by
    simp [sentence, stop]
  rw [extract_of_line line, whole, found, List.append_nil, runOn_eq ends]
  simp only [firm.trim_concat_space]

def listing : List Text → Text
  | [] => ['.']
  | [text] => backtick :: (text ++ [backtick, '.'])
  | text :: rest => backtick :: (text ++ [backtick, ',', ' '] ++ listing rest)

def oneOfSentence (texts : List Text) : Text := ' ' :: oneOfLead ++ listing texts

def listingTail : List Text → Text
  | [] => ['.']
  | rest => ',' :: ' ' :: listing rest

theorem listing_cons (text : Text) (rest : List Text) :
    listing (text :: rest) = backtick :: (text ++ backtick :: listingTail rest) := by
  cases rest with
  | nil => rfl
  | cons next others => simp [listing, listingTail]

theorem dropComma_listingTail (rest : List Text) (after : Text) :
    (dropComma (listingTail rest ++ after)).dropWhile isInlineBlank = listing rest ++ after := by
  cases rest with
  | nil => rfl
  | cons next others =>
      rw [listingTail, List.cons_append, dropComma, listing_cons]
      · rfl
      · simp

theorem takeWhile_unticked {text : Text} (unticked : backtick ∉ text) (after : Text) :
    (text ++ backtick :: after).takeWhile (· != backtick) = text := by
  have visible : ∀ c ∈ text, (c != backtick) = true := by
    intro c member
    rw [bne_iff_ne]
    intro same
    cases same
    exact unticked member
  rw [List.takeWhile_append_of_pos visible]
  simp

theorem unticked_takeWhile (text : Text) : backtick ∉ text.takeWhile (· != backtick) := by
  intro member
  simpa using List.mem_takeWhile_imp member

/-- What does not end with the payload goes on with the backtick that ends the payload. -/
theorem takeWhile_append_tick {text after : Text} {c : Char}
    (behind : text.drop (text.takeWhile (· != backtick)).length = c :: after) :
    text.takeWhile (· != backtick) ++ backtick :: after = text := by
  have parts := List.takeWhile_append_dropWhile (p := (· != backtick)) (l := text)
  have dropped : (text.takeWhile (· != backtick) ++ text.dropWhile (· != backtick)).drop
      (text.takeWhile (· != backtick)).length = text.dropWhile (· != backtick) := List.drop_left
  rw [parts, behind] at dropped
  have stopped : text.dropWhile (· != backtick) ≠ [] := by
    rw [← dropped]
    exact List.cons_ne_nil c after
  have ends := List.head_dropWhile_not (· != backtick) stopped
  simp only [← dropped, List.head_cons, bne_eq_false_iff_eq] at ends
  rw [← dropped, ends] at parts
  exact parts

theorem item?_quoted {text : Text} (nonempty : text ≠ []) (unticked : backtick ∉ text)
    (after : Text) :
    item? (backtick :: (text ++ backtick :: after)) =
      some (text, (dropComma after).dropWhile isInlineBlank) := by
  have full : text.isEmpty = false := by simpa using nonempty
  simp only [item?, bne_self_eq_false, Bool.false_eq_true, if_false, takeWhile_unticked unticked,
    List.drop_left, full]

/-- The entries that are read of a list: those before the first empty one. -/
def readable (texts : List Text) : List Text := texts.takeWhile (!·.isEmpty)

theorem entriesFrom_listing {texts : List Text} (unticked : ∀ text ∈ texts, backtick ∉ text)
    (after : Text) {steps : Nat} (enough : texts.length ≤ steps) :
    entriesFrom steps (listing texts ++ after) = readable texts := by
  induction texts generalizing steps with
  | nil =>
      cases steps with
      | zero => rfl
      | succ steps => rfl
  | cons text rest ih =>
      rw [List.forall_mem_cons] at unticked
      cases steps with
      | zero => simp at enough
      | succ steps =>
          have others := ih unticked.2 (Nat.le_of_succ_le_succ enough)
          have whole : listing (text :: rest) ++ after =
              backtick :: (text ++ backtick :: (listingTail rest ++ after)) := by
            simp [listing_cons]
          rw [whole, entriesFrom]
          cases text with
          | nil => rfl
          | cons c text =>
              rw [item?_quoted (List.cons_ne_nil c text) unticked.1]
              simp only [dropComma_listingTail, others]
              rfl

theorem length_le_listing (texts : List Text) : texts.length ≤ (listing texts).length := by
  induction texts with
  | nil => simp
  | cons text rest ih =>
      rw [listing_cons]
      cases rest with
      | nil => simp
      | cons next others =>
          simp only [listingTail, List.length_cons, List.length_append] at ih ⊢
          omega

theorem entries_listing {texts : List Text} (unticked : ∀ text ∈ texts, backtick ∉ text)
    (after : Text) : entries (listing texts ++ after) = readable texts := by
  have enough := length_le_listing texts
  exact entriesFrom_listing unticked after (by rw [List.length_append]; omega)

/-- A word that no fixed part of a list touches stays out of the list. -/
theorem not_infix_listing {word text : Text} {rest : List Text} (nonempty : word ≠ [])
    (comma : Text.keepsOut word [',', ' ', backtick]) (stop : Text.keepsOut word ['.'])
    (free : ∀ payload ∈ text :: rest, ¬ word <:+: payload ++ [backtick]) :
    ¬ word <:+: text ++ backtick :: listingTail rest := by
  have nothing : ¬ word <:+: ([] : Text) := by simpa using nonempty
  induction rest generalizing text with
  | nil =>
      have whole := Text.not_infix_of_keepsOut stop (free text (by simp)) nothing
      simpa [listingTail] using whole
  | cons next others ih =>
      rw [List.forall_mem_cons] at free
      have whole := Text.not_infix_of_keepsOut comma free.1 (ih free.2)
      simpa [listingTail, listing_cons] using whole

theorem oneOfSplit?_of_line {text : Text} (line : '\n' ∉ text) :
    oneOfSplit? text = Text.splitLast? oneOfLead text := by
  unfold oneOfSplit? Text.lines
  rw [Text.split_of_not_mem line]
  unfold oneOfSplit?.go
  cases Text.splitLast? oneOfLead text with
  | none => rfl
  | some found =>
      obtain ⟨before, after⟩ := found
      rfl

theorem extractOneOf_absent {description : Text} (line : '\n' ∉ description)
    (absent : ¬ oneOfLead <:+: description) :
    extractOneOf description = .ok (description, none) := by
  rw [extractOneOf, oneOfSplit?_of_line line, Text.splitLast?_eq_none absent]

theorem extractOneOf_oneOfSentence {description after : Text} {texts : List Text}
    (unticked : ∀ text ∈ texts, backtick ∉ text)
    (last : ¬ oneOfLead <:+: oneOfLead.tail ++ (listing texts ++ after))
    (firm : Text.Firm description)
    (line : '\n' ∉ description ++ (oneOfSentence texts ++ after)) :
    extractOneOf (description ++ (oneOfSentence texts ++ after)) =
      if readable texts = [] then
        .error (.oneOfWithoutEntries (description ++ (oneOfSentence texts ++ after)))
      else .ok (description, some (readable texts)) := by
  have found := Text.splitLast?_append (description ++ [' '])
    (Text.splitLast?_of_last (by decide) last)
  have whole : description ++ [' '] ++ (oneOfLead ++ (listing texts ++ after)) =
      description ++ (oneOfSentence texts ++ after) := by
    simp [oneOfSentence]
  rw [List.append_nil, whole] at found
  rw [extractOneOf, oneOfSplit?_of_line line, found]
  simp only [entries_listing unticked, firm.trim_concat_space]
  cases readable texts with
  | nil => rfl
  | cons first others => rfl

end CommentSchema.Comment
