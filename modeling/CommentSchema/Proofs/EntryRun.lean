import CommentSchema.Proofs.LastClause

/-! The entries of a list.  Entries stand right behind one another, each a payload in backticks
with a separator, and a reader takes as many of them as there are.  The search for a list takes
the whole run in one group and finds the entries in it again; as a run is only ever left in
front of a backtick or at its end, both readings agree. -/

namespace CommentSchema.Comment

/-- What may stand behind an entry: at most one comma, and blanks. -/
inductive IsSeparator : Text → Prop
  | blanks {blanks : Text} (each : ∀ c ∈ blanks, isInlineBlank c = true) : IsSeparator blanks
  | comma {blanks : Text} (each : ∀ c ∈ blanks, isInlineBlank c = true) :
      IsSeparator (',' :: blanks)

/-- An entry as it is written, and its payload. -/
inductive IsEntry : Text → Text → Prop
  | mk {payload separator : Text} (nonempty : payload ≠ []) (unticked : backtick ∉ payload)
      (separated : IsSeparator separator) :
      IsEntry (backtick :: (payload ++ backtick :: separator)) payload

/-- Entries right behind one another, and their payloads. -/
inductive Run : Text → List Text → Prop
  | nil : Run [] []
  | cons {entry payload run : Text} {payloads : List Text} (first : IsEntry entry payload)
      (others : Run run payloads) : Run (entry ++ run) (payload :: payloads)

/-- The longest run at the beginning of a text. -/
structure LongestRun (text run : Text) (payloads : List Text) : Prop where
  entries : Run run payloads
  begins : run <+: text
  longest : ∀ other others, Run other others → other <+: text → other.length ≤ run.length

/-! ### Separators -/

def separator : Text → Text
  | ',' :: after => ',' :: after.takeWhile isInlineBlank
  | text => text.takeWhile isInlineBlank

def dropSeparator (text : Text) : Text := (dropComma text).dropWhile isInlineBlank

section

variable {text : Text} (other : ∀ c ∈ text.head?, c ≠ ',')
include other

theorem dropComma_eq : dropComma text = text := by
  unfold dropComma
  split
  · exact absurd rfl (other ',' rfl)
  · rfl

theorem separator_eq : separator text = text.takeWhile isInlineBlank := by
  unfold separator
  split
  · exact absurd rfl (other ',' rfl)
  · rfl

end

theorem separator_append (text : Text) : separator text ++ dropSeparator text = text := by
  unfold separator dropSeparator dropComma
  split <;> simp

theorem isSeparator_separator (text : Text) : IsSeparator (separator text) := by
  unfold separator
  split
  · exact .comma fun c => List.mem_takeWhile_imp
  · exact .blanks fun c => List.mem_takeWhile_imp

theorem dropSeparator_isSuffix (text : Text) : dropSeparator text <:+ text :=
  ⟨separator text, separator_append text⟩

theorem dropSeparator_eq {text : Text}
    (stops : ∀ c ∈ text.head?, c ≠ ',' ∧ isInlineBlank c = false) :
    dropSeparator text = text := by
  rw [dropSeparator, dropComma_eq fun c first => (stops c first).1]
  cases text with
  | nil => rfl
  | cons c rest => exact List.dropWhile_cons_of_neg (by simp [(stops c rfl).2])

/-- A separator is dropped as a whole, and nothing but a comma or blanks with it. -/
theorem dropSeparator_append {separator : Text} (separated : IsSeparator separator) (text : Text) :
    dropSeparator (separator ++ text) = text.dropWhile isInlineBlank ∨
      dropSeparator (separator ++ text) = dropSeparator text := by
  cases separated with
  | comma each =>
      exact .inl (List.dropWhile_append_of_pos each)
  | blanks each =>
      cases separator with
      | nil => exact .inr rfl
      | cons c rest =>
          have other : ∀ d ∈ (c :: rest ++ text).head?, d ≠ ',' := by
            rintro d first rfl
            cases first
            cases each ',' List.mem_cons_self
          rw [dropSeparator, dropComma_eq other]
          exact .inl (List.dropWhile_append_of_pos each)

/-! ### The scan of a list -/

variable {text entry payload rest run : Text} {payloads : List Text}

theorem Run.begins (entries : Run run payloads) : ∀ c ∈ run.head?, c = backtick := by
  cases entries with
  | nil => simp
  | cons first others =>
      cases first
      simp

theorem stops_of_backtick (begins : ∀ c ∈ text.head?, c = backtick) :
    ∀ c ∈ text.head?, c ≠ ',' ∧ isInlineBlank c = false := by
  intro c first
  rw [begins c first]
  decide

theorem isEntry_of_item? (found : item? text = some (payload, rest)) :
    ∃ entry, IsEntry entry payload ∧ text = entry ++ rest := by
  obtain ⟨nonempty, unticked, after, rfl⟩ := item?_eq_some found
  rw [item?_quoted nonempty unticked] at found
  cases found
  refine ⟨_, .mk nonempty unticked (isSeparator_separator after), ?_⟩
  have parts := separator_append after
  rw [dropSeparator] at parts
  simp [parts]

/-- In front of a backtick, and at the end, an entry is read as it is written; in front of
anything else its separator may go on. -/
theorem item?_of_isEntry (written : IsEntry entry payload) (text : Text) :
    ∃ rest, item? (entry ++ text) = some (payload, rest) ∧ rest <:+ text ∧
      ((∀ c ∈ text.head?, c = backtick) → rest = text) := by
  cases written with
  | @mk payload separator nonempty unticked separated =>
      have found := item?_quoted nonempty unticked (separator ++ text)
      refine ⟨dropSeparator (separator ++ text), by simpa [dropSeparator] using found, ?_⟩
      rcases dropSeparator_append separated text with same | same
      · rw [same]
        refine ⟨List.dropWhile_suffix _, fun begins => ?_⟩
        cases text with
        | nil => rfl
        | cons c others =>
            exact List.dropWhile_cons_of_neg (by simp [(stops_of_backtick begins c rfl).2])
      · rw [same]
        exact ⟨dropSeparator_isSuffix text,
          fun begins => dropSeparator_eq (stops_of_backtick begins)⟩

/-- The run that is read at the beginning of a text. -/
def runFrom : Nat → Text → Text
  | 0, _ => []
  | steps + 1, text =>
      match item? text with
      | some (_, after) => text.take (text.length - after.length) ++ runFrom steps after
      | none => []

theorem runFrom_append (found : item? (entry ++ rest) = some (payload, rest)) (steps : Nat) :
    runFrom (steps + 1) (entry ++ rest) = entry ++ runFrom steps rest := by
  simp [runFrom, found]

theorem run_runFrom (steps : Nat) (text : Text) :
    Run (runFrom steps text) (entriesFrom steps text) := by
  induction steps generalizing text with
  | zero => exact .nil
  | succ steps ih =>
      cases found : item? text with
      | none =>
          rw [runFrom, entriesFrom, found]
          exact .nil
      | some item =>
          obtain ⟨payload, rest⟩ := item
          obtain ⟨entry, written, rfl⟩ := isEntry_of_item? found
          rw [runFrom_append found, entriesFrom, found]
          exact .cons written (ih rest)

theorem runFrom_isPrefix (steps : Nat) (text : Text) : runFrom steps text <+: text := by
  induction steps generalizing text with
  | zero => exact List.nil_prefix
  | succ steps ih =>
      cases found : item? text with
      | none =>
          rw [runFrom, found]
          exact List.nil_prefix
      | some item =>
          obtain ⟨payload, rest⟩ := item
          obtain ⟨entry, written, rfl⟩ := isEntry_of_item? found
          rw [runFrom_append found]
          exact (List.prefix_append_right_inj entry).mpr (ih rest)

theorem IsEntry.length_pos (written : IsEntry entry payload) : 0 < entry.length := by
  cases written
  simp

theorem length_le_runFrom {steps : Nat} (enough : text.length ≤ steps) (entries : Run run payloads)
    (begins : run <+: text) : run.length ≤ (runFrom steps text).length := by
  induction entries generalizing steps text with
  | nil => exact Nat.zero_le _
  | @cons entry payload run payloads first others ih =>
      obtain ⟨tail, rfl⟩ := begins
      have positive := first.length_pos
      cases steps with
      | zero =>
          simp only [List.length_append] at enough
          omega
      | succ steps =>
          rw [List.append_assoc] at enough ⊢
          obtain ⟨rest, found, isTail, whole⟩ := item?_of_isEntry first (run ++ tail)
          cases run with
          | nil =>
              -- The last entry of a run may be written with less than the whole separator.
              obtain ⟨longer, -, same⟩ := isEntry_of_item? found
              have lengths := congrArg List.length same
              have shorter := isTail.length_le
              rw [same] at found ⊢
              rw [runFrom_append found]
              simp only [List.length_append, List.length_nil] at lengths shorter ⊢
              omega
          | cons c run =>
              have next := whole fun d head => others.begins d (by simpa using head)
              subst next
              rw [runFrom_append found]
              rw [List.length_append] at enough
              have fewer : (c :: run ++ tail).length ≤ steps := by omega
              have behind := ih fewer (List.prefix_append (c :: run) tail)
              simp only [List.length_append] at behind ⊢
              omega

def runOf (text : Text) : Text := runFrom text.length text

theorem longestRun_runOf (text : Text) : LongestRun text (runOf text) (entries text) where
  entries := run_runFrom text.length text
  begins := runFrom_isPrefix text.length text
  longest _ _ entries begins := length_le_runFrom (Nat.le_refl _) entries begins

/-- A run is read as it is written. -/
theorem entriesFrom_run {steps : Nat} (written : Run run payloads) (enough : run.length ≤ steps) :
    entriesFrom steps run = payloads := by
  induction written generalizing steps with
  | nil =>
      cases steps with
      | zero => rfl
      | succ steps => rfl
  | @cons entry payload run payloads first others ih =>
      have positive := first.length_pos
      rw [List.length_append] at enough
      cases steps with
      | zero => omega
      | succ steps =>
          obtain ⟨rest, found, -, whole⟩ := item?_of_isEntry first run
          obtain rfl := whole others.begins
          rw [entriesFrom, found]
          exact congrArg (payload :: ·) (ih (by omega))

theorem LongestRun.payloads_eq (longest : LongestRun text run payloads) :
    payloads = Comment.entries text := by
  have greatest := longestRun_runOf text
  have fits := longest.longest _ _ greatest.entries greatest.begins
  have other := greatest.longest _ _ longest.entries longest.begins
  have same : run = runOf text :=
    (List.prefix_of_prefix_length_le longest.begins greatest.begins other).eq_of_length
      (Nat.le_antisymm other fits)
  have found := entriesFrom_run longest.entries (Nat.le_refl _)
  have found' := entriesFrom_run greatest.entries (Nat.le_refl _)
  rw [← found, ← found', same]

end CommentSchema.Comment
