import CommentSchema.Proofs.EntryRun

/-! The list that a description ends with.  It stands behind the last lead on the first line
that has one, and it is the longest run of entries there.  That is what the search for the
pattern of a list finds, and a list that is written so is read as it is written. -/

namespace CommentSchema

namespace Text

variable {word line before after : Text}

/-- The last place of a line at which a word occurs. -/
structure LastOccurrence (word line before after : Text) : Prop where
  split : line = before ++ (word ++ after)
  last : ∀ front rest, line = front ++ (word ++ rest) → front.length ≤ before.length

theorem lastOccurrence_iff (nonempty : word ≠ []) :
    LastOccurrence word line before after ↔ splitLast? word line = some (before, after) := by
  rw [splitLast?_eq_some_iff nonempty]
  obtain ⟨c, word, rfl⟩ := List.exists_cons_of_ne_nil nonempty
  constructor
  · rintro ⟨rfl, last⟩
    refine ⟨rfl, fun ⟨front, rest, same⟩ => ?_⟩
    have later := last (before ++ c :: front) rest (by
      rw [List.tail_cons] at same
      simp [← same])
    simp only [List.length_append, List.length_cons] at later
    omega
  · rintro ⟨rfl, absent⟩
    refine ⟨rfl, fun front rest same => ?_⟩
    by_contra later
    obtain ⟨between, rfl⟩ : before <+: front :=
      List.prefix_of_prefix_length_le (List.prefix_append _ _) ⟨_, same.symm⟩ (by omega)
    rw [List.append_assoc, List.append_cancel_left_eq] at same
    cases between with
    | nil => simp at later
    | cons d between =>
        obtain ⟨-, tail⟩ := List.cons.inj same
        exact absent ⟨between, rest, by simpa using tail.symm⟩

theorem infix_unlines_iff (nonempty : word ≠ []) (single : '\n' ∉ word) {lines : List Text} :
    word <:+: unlines lines ↔ ∃ line ∈ lines, word <:+: line := by
  induction lines with
  | nil => simpa [unlines] using nonempty
  | cons line rest ih =>
      cases rest with
      | nil => simp [unlines]
      | cons next others =>
          rw [unlines_cons_cons, infix_append_cons_iff single, ih]
          simp

theorem splitLast?_eq_lastAt? (nonempty : word ≠ []) (text : Text) :
    splitLast? word text = lastAt? word.isPrefixOf? text := by
  induction text with
  | nil =>
      obtain ⟨c, word, rfl⟩ := List.exists_cons_of_ne_nil nonempty
      rfl
  | cons c rest ih =>
      rw [splitLast?, lastAt?, ← ih]
      cases splitLast? word rest <;> rfl

end Text

namespace Comment

variable {text before rest : Text}

/-- The last lead of a list on the first line that has one: the text in front of it on its line
and all the text behind it. -/
inductive FirstLead (text : Text) : Text → Text → Prop
  | mk {front back : List Text} {line before after : Text}
      (split : Text.lines text = front ++ line :: back)
      (first : ∀ other ∈ front, ¬ oneOfLead <:+: other)
      (last : Text.LastOccurrence oneOfLead line before after) :
      FirstLead text before (Text.unlines (after :: back))

/-- What the pass answers that reads a list. -/
inductive ListReading (text : Text) : Except Error (Text × Option (List Text)) → Prop
  | absent (nowhere : ¬ oneOfLead <:+: text) : ListReading text (.ok (text, none))
  | listed {before rest run : Text} {payloads : List Text} (lead : FirstLead text before rest)
      (longest : LongestRun rest run payloads) (nonempty : payloads ≠ []) :
      ListReading text (.ok (Text.trim before, some payloads))
  | empty {before rest : Text} (lead : FirstLead text before rest)
      (longest : LongestRun rest [] []) : ListReading text (.error (.oneOfWithoutEntries text))

/-! ### The scan -/

theorem go_eq_firstLine? (lines : List Text) :
    oneOfSplit?.go lines = Text.firstLine? (fun line others =>
      (Text.splitLast? oneOfLead line).map fun split =>
        (split.1, Text.unlines (split.2 :: others))) lines := by
  induction lines with
  | nil => rfl
  | cons line rest ih =>
      rw [oneOfSplit?.go, Text.firstLine?, ih]
      cases Text.splitLast? oneOfLead line <;> rfl

theorem go_eq_none_iff {lines : List Text} :
    oneOfSplit?.go lines = none ↔ ∀ line ∈ lines, ¬ oneOfLead <:+: line := by
  induction lines with
  | nil => simp [oneOfSplit?.go]
  | cons line rest ih =>
      rw [List.forall_mem_cons, ← ih, ← Text.splitLast?_eq_none_iff (by decide), oneOfSplit?.go]
      cases Text.splitLast? oneOfLead line <;> simp

theorem go_eq_some_iff {lines : List Text} :
    oneOfSplit?.go lines = some (before, rest) ↔
      ∃ front line back after, lines = front ++ line :: back ∧
        (∀ other ∈ front, ¬ oneOfLead <:+: other) ∧
        Text.splitLast? oneOfLead line = some (before, after) ∧
        rest = Text.unlines (after :: back) := by
  induction lines with
  | nil => simp [oneOfSplit?.go]
  | cons line others ih =>
      rw [oneOfSplit?.go]
      constructor
      · intro found
        cases here : Text.splitLast? oneOfLead line with
        | some split =>
            rw [here] at found
            cases found
            exact ⟨[], line, others, split.2, rfl, List.forall_mem_nil _, here, rfl⟩
        | none =>
            rw [here] at found
            obtain ⟨front, first, back, after, rfl, absent, last⟩ := ih.mp found
            refine ⟨line :: front, first, back, after, rfl, ?_, last⟩
            exact List.forall_mem_cons.mpr
              ⟨(Text.splitLast?_eq_none_iff (by decide)).mp here, absent⟩
      · rintro ⟨front, first, back, after, split, absent, last, same⟩
        cases front with
        | nil =>
            cases split
            rw [last, same]
        | cons other front =>
            cases split
            rw [List.forall_mem_cons] at absent
            rw [Text.splitLast?_eq_none absent.1]
            exact ih.mpr ⟨front, first, back, after, rfl, absent.2, last, same⟩

theorem firstLead_iff : FirstLead text before rest ↔ oneOfSplit? text = some (before, rest) := by
  rw [oneOfSplit?, go_eq_some_iff]
  constructor
  · rintro ⟨split, first, last⟩
    exact ⟨_, _, _, _, split, first, (Text.lastOccurrence_iff (by decide)).mp last, rfl⟩
  · rintro ⟨front, line, back, after, split, first, last, rfl⟩
    exact .mk split first ((Text.lastOccurrence_iff (by decide)).mpr last)

theorem oneOfSplit?_eq_none_iff : oneOfSplit? text = none ↔ ¬ oneOfLead <:+: text := by
  rw [oneOfSplit?, go_eq_none_iff]
  conv => rhs; rw [← Text.unlines_lines text, Text.infix_unlines_iff (by decide) (by decide)]
  simp

theorem Run.eq_nil {run : Text} (entries : Run run []) : run = [] := by
  cases entries
  rfl

theorem extractOneOf_eq_iff {outcome : Except Error (Text × Option (List Text))} :
    extractOneOf text = outcome ↔ ListReading text outcome := by
  constructor
  · rintro rfl
    unfold extractOneOf
    split
    · next none => exact .absent (oneOfSplit?_eq_none_iff.mp none)
    · next before rest found =>
        have longest := longestRun_runOf rest
        split
        · next nothing =>
            rw [nothing] at longest
            have none : runOf rest = [] := longest.entries.eq_nil
            rw [none] at longest
            exact .empty (firstLead_iff.mpr found) longest
        · next listed =>
            exact .listed (firstLead_iff.mpr found) longest listed
  · intro reading
    unfold extractOneOf
    cases reading with
    | absent nowhere => rw [oneOfSplit?_eq_none_iff.mpr nowhere]
    | listed lead longest nonempty =>
        rw [firstLead_iff.mp lead]
        simp only [← longest.payloads_eq]
    | empty lead longest =>
        rw [firstLead_iff.mp lead]
        simp only [← longest.payloads_eq]

/-! ### The pattern of a list -/

namespace Grammar

open Pattern

variable {fresh : Bool} {payload : Text}

theorem first?_separator :
    (both (optional (word [','])) (many (one isInlineBlank))).first? fresh text =
      some ⟨separator text, [], dropSeparator text⟩ := by
  by_cases comma : text.head? = some ','
  · obtain ⟨after, rfl⟩ := List.head?_eq_some_iff.mp comma
    have taken : (optional (word [','])).first? fresh (',' :: after) =
        some ⟨[','], [], after⟩ := by
      have begins : [','].isPrefixOf? (',' :: after) = some after :=
        Text.isPrefixOf?_append [','] after
      rw [Pattern.optional, first?_either, first?_word, begins]
      rfl
    exact first?_both_of_some taken (first?_many_one isInlineBlank _ _)
  · have other : ∀ c ∈ text.head?, c ≠ ',' := fun c first same => comma (same ▸ first)
    have untaken : (optional (word [','])).first? fresh text = some ⟨[], [], text⟩ := by
      rw [Pattern.optional, first?_either, first?_word, first?_word, Text.isPrefixOf?_eq_none]
      · rfl
      · rintro ⟨after, rfl⟩
        exact other ',' rfl rfl
    rw [first?_both_of_some untaken (first?_many_one isInlineBlank _ _), separator_eq other,
      dropSeparator, dropComma_eq other]
    rfl

theorem first?_tick_both {second : Pattern} (placeless : second.placeless) :
    (both (word [backtick]) second).first? fresh (backtick :: text) =
      (second.first? true text).map fun found =>
        ⟨backtick :: found.taken, found.groups, found.rest⟩ := by
  have begins : [backtick].isPrefixOf? (backtick :: text) = some text :=
    Text.isPrefixOf?_append [backtick] text
  rw [first?_word_both _ placeless, begins]
  rfl

theorem first?_tick_both_eq_none {second : Pattern} (placeless : second.placeless)
    (other : ∀ c ∈ text.head?, c ≠ backtick) :
    (both (word [backtick]) second).first? fresh text = none := by
  rw [first?_word_both _ placeless, Text.isPrefixOf?_eq_none]
  · rfl
  · rintro ⟨rest, rfl⟩
    exact other backtick rfl rfl

/-- Behind its first backtick an entry is a run of other characters. -/
theorem first?_payload (number : Nat) {after : Text} (unticked : backtick ∉ payload)
    (stops : ∀ c ∈ after.head?, c = backtick) :
    (entry number).first? fresh (backtick :: (payload ++ after)) =
      if payload = [] then none
      else
        ((both (word [backtick]) (both (optional (word [','])) (many (one isInlineBlank)))).first?
          true after).map fun found =>
            ⟨backtick :: (payload ++ found.taken), found.groups ++ [(number, payload)],
              found.rest⟩ := by
  have within : ∀ c ∈ payload, (c != backtick) = true := by
    intro c member
    rw [bne_iff_ne]
    rintro rfl
    exact unticked member
  rw [entry, first?_tick_both rfl, first?_several_both number rfl within]
  · split
    · rfl
    · rw [Option.map_map]
      rfl
  · intro c first
    rw [stops c first]
    rfl
  · intro c rest other
    refine first?_tick_both_eq_none rfl fun d first => ?_
    cases first
    exact bne_iff_ne.mp other

/-- An entry is taken in front of what the scan leaves behind it. -/
theorem first?_entry (number : Nat) :
    (entry number).first? fresh text = (item? text).map fun item =>
      ⟨text.take (text.length - item.2.length), [(number, item.1)], item.2⟩ := by
  cases found : item? text with
  | some item =>
      obtain ⟨payload, rest⟩ := item
      obtain ⟨nonempty, unticked, after, rfl⟩ := item?_eq_some found
      rw [item?_quoted nonempty unticked] at found
      cases found
      rw [first?_payload number unticked (by simp), if_neg nonempty, first?_tick_both rfl,
        first?_separator, ← dropSeparator]
      have parts := separator_append after
      generalize separator after = taken at parts ⊢
      generalize dropSeparator after = rest at parts ⊢
      subst parts
      have whole : backtick :: (payload ++ backtick :: (taken ++ rest)) =
          backtick :: (payload ++ backtick :: taken) ++ rest := by simp
      simp only [whole, Option.map_some, List.nil_append]
      rw [List.length_append, Nat.add_sub_cancel, List.take_left]
  | none =>
      rw [item?_eq_none_iff] at found
      cases text with
      | nil => exact first?_tick_both_eq_none rfl (by simp)
      | cons c rest =>
          by_cases tick : c = backtick
          · subst tick
            have parts := List.takeWhile_append_dropWhile (p := (· != backtick)) (l := rest)
            have unticked := unticked_takeWhile rest
            have stops := List.head?_dropWhile_not (· != backtick) rest
            generalize rest.takeWhile (· != backtick) = payload at parts unticked
            generalize rest.dropWhile (· != backtick) = after at parts stops
            subst parts
            have ends : ∀ c ∈ after.head?, c = backtick := by
              intro c first
              rw [Option.mem_def.mp first] at stops
              simpa using stops
            rw [first?_payload number unticked ends]
            split
            · rfl
            · next nonempty =>
                cases after with
                | nil => rw [first?_tick_both_eq_none rfl (by simp)]; rfl
                | cons d after =>
                    obtain rfl := ends d rfl
                    exact absurd rfl (found payload after nonempty unticked)
          · refine first?_tick_both_eq_none rfl fun d first => ?_
            cases first
            exact tick

theorem first?_entry_append {written rest : Text} (number : Nat) (fresh : Bool)
    (found : item? (written ++ rest) = some (payload, rest)) :
    (entry number).first? fresh (written ++ rest) =
      some ⟨written, [(number, payload)], rest⟩ := by
  rw [first?_entry, found]
  simp

/-- As many entries are offered as the scan finds. -/
theorem head?_repeated_entry (number steps : Nat) :
    (repeated (entry number).offers steps fresh text).head? =
      some ⟨runFrom steps text, ((entriesFrom steps text).map (number, ·)).reverse,
        text.drop (runFrom steps text).length⟩ := by
  induction steps generalizing fresh text with
  | zero => rfl
  | succ steps ih =>
      cases found : item? text with
      | none =>
          have nothing : (entry number).first? fresh text = none := by rw [first?_entry, found]; rfl
          rw [head?_repeated_of_none nothing, runFrom, entriesFrom, found]
          rfl
      | some item =>
          obtain ⟨payload, rest⟩ := item
          obtain ⟨written, isEntry, rfl⟩ := isEntry_of_item? found
          have first := first?_entry_append number fresh found
          have takes : written ≠ [] := List.length_pos_iff.mp isEntry.length_pos
          rw [head?_repeated_of_some first takes, ih, runFrom_append found, entriesFrom, found]
          simp [Match.append, List.drop_append]

theorem first?_entries (number : Nat) :
    (many (entry number)).first? fresh text =
      some ⟨runOf text, ((entries text).map (number, ·)).reverse,
        text.drop (runOf text).length⟩ :=
  head?_repeated_entry number text.length

/-- The entries of a run are found in it again. -/
theorem findAll_run {run : Text} {payloads : List Text} (written : Run run payloads) :
    ((entry 1).findAll run).filterMap (·.group? 1) = payloads := by
  have found (fresh : Bool) :
      (((entry 1).piecesFrom fresh run).filterMap Sum.getRight?).filterMap (·.group? 1) =
        payloads := by
    induction written generalizing fresh with
    | nil => rw [piecesFrom_nil]; rfl
    | @cons entry payload run payloads first others ih =>
        obtain ⟨rest, found, -, whole⟩ := item?_of_isEntry first run
        obtain rfl := whole others.begins
        have here := first?_entry_append 1 fresh found
        have takes : rest.length < (entry ++ rest).length := by
          have positive := first.length_pos
          rw [List.length_append]
          omega
        rw [piecesFrom_of_some here takes]
        exact congrArg (payload :: ·) (ih _)
  exact found true

theorem lookup_listing (run before : Text) (payloads : List Text) :
    ((2, run) :: (payloads.map fun payload => (3, payload)).reverse ++ [(1, before)]).lookup 1 =
      some before := by
  have absent : (payloads.map fun payload => (3, payload)).reverse.lookup 1 = none := by
    simp [List.lookup_eq_none_iff]
  rw [List.lookup_append, List.lookup_cons, absent]
  rfl

/-- The lead is found where the scan finds it, and the second group is the run behind it. -/
theorem groups_listing {line : Text} (single : '\n' ∉ line) (others : List Text) :
    (listing.first? true (line ++ Text.behind others)).map
        (fun found => (found.group? 1, found.group? 2)) =
      (Text.splitLast? oneOfLead line).map fun split =>
        (some split.1, some (runOf (Text.unlines (split.2 :: others)))) := by
  have next (rest : Text) : (both (word oneOfLead) (group 2 (many (entry 3)))).first? true
      (rest ++ Text.behind others) = (oneOfLead.isPrefixOf? rest).map fun after =>
        let whole := after ++ Text.behind others
        ⟨oneOfLead ++ runOf whole, (2, runOf whole) :: ((entries whole).map (3, ·)).reverse,
          whole.drop (runOf whole).length⟩ := by
    rw [first?_word_both oneOfLead rfl, Text.isPrefixOf?_append_behind (by decide)]
    cases oneOfLead.isPrefixOf? rest with
    | none => rfl
    | some after =>
        rw [Option.map_some, Option.bind_some, first?_group, first?_entries]
        rfl
  have run : listing.first? true (line ++ Text.behind others) = _ :=
    first?_run_both 1 rfl (within_inLine single) (stops_inLine others)
  simp only [next] at run
  rw [Text.lastAt?_map, ← Text.splitLast?_eq_lastAt? (by decide), Option.map_map] at run
  rw [run, Option.map_map]
  congr 1
  funext split
  rw [Text.unlines_cons]
  simp only [Function.comp_apply, Prod.map, id, Match.append, Match.group?]
  exact congrArg (·, _) (lookup_listing _ _ _)

theorem listing_goesByLine : listing.GoesByLine := by
  refine goesByLine_of_reads rfl
    (fun line others single => groups_listing single others) fun c line _ none => ?_
  rw [Option.map_eq_none_iff, Text.splitLast?_eq_none_iff (by decide)] at none ⊢
  exact fun found => none (found.trans (List.suffix_cons c line).isInfix)

theorem extractOneOf_eq (text : Text) :
    Grammar.extractOneOf text = Comment.extractOneOf text := by
  have searched := search_eq_firstLine? listing_goesByLine
    (fun line others single => groups_listing single others) text
  have found := Text.firstLine?_map
    (fun line others => (Text.splitLast? oneOfLead line).map fun split =>
      (split.1, Text.unlines (split.2 :: others)))
    (fun split => (some split.1, some (runOf split.2))) (Text.lines text)
  simp only [Option.map_map] at found
  rw [← go_eq_firstLine?, ← oneOfSplit?] at found
  have same := searched.trans found
  unfold Grammar.extractOneOf Comment.extractOneOf
  cases split : oneOfSplit? text with
  | none =>
      rw [split] at same
      rw [Option.map_eq_none_iff.mp same]
  | some pieces =>
      obtain ⟨before, rest⟩ := pieces
      rw [split] at same
      obtain ⟨found, here, groups⟩ := Option.map_eq_some_iff.mp same
      obtain ⟨first, second⟩ := Prod.mk.inj groups
      have again := findAll_run (run_runFrom rest.length rest)
      rw [← runOf, ← entries] at again
      cases listed : entries rest with
      | nil => simp only [here, second, Option.getD_some, again, listed]
      | cons payload others => simp only [here, first, second, Option.getD_some, again, listed]

end Grammar

/-! ### Lists that are written -/

variable {run : Text} {payloads : List Text}

theorem IsSeparator.mem {separator : Text} (separated : IsSeparator separator) :
    ∀ c ∈ separator, c = ',' ∨ isInlineBlank c = true := by
  cases separated with
  | blanks each => exact fun c member => .inr (each c member)
  | comma each => exact List.forall_mem_cons.mpr ⟨.inl rfl, fun c member => .inr (each c member)⟩

/-- The fixed parts of a run hold nothing of a lead. -/
theorem not_infix_run (written : Run run payloads)
    (absent : ∀ payload ∈ payloads, ¬ oneOfLead <:+: payload) : ¬ oneOfLead <:+: run := by
  induction written with
  | nil => decide
  | @cons entry payload run payloads first others ih =>
      rw [List.forall_mem_cons] at absent
      obtain @⟨payload, separator, -, -, separated⟩ := first
      have outside : ¬ oneOfLead <:+: separator := by
        refine Text.not_infix_of_not_mem (c := 'S') (by decide) fun member => ?_
        exact absurd (separated.mem 'S' member) (by decide)
      have behind : ¬ oneOfLead <:+: separator ++ run := by
        cases run with
        | nil => rwa [List.append_nil]
        | cons c rest =>
            obtain rfl := others.begins c rfl
            rw [Text.infix_append_cons_iff (by decide), not_or]
            exact ⟨outside, fun found => ih absent.2 (found.trans (List.suffix_cons _ _).isInfix)⟩
      have whole : backtick :: (payload ++ backtick :: separator) ++ run =
          [] ++ backtick :: (payload ++ backtick :: (separator ++ run)) := by simp
      rw [whole, Text.infix_append_cons_iff (by decide), Text.infix_append_cons_iff (by decide)]
      simp only [not_or]
      exact ⟨by decide, absent.1, behind⟩

theorem listReading_written (written : Run run payloads) (nonempty : payloads ≠ [])
    (absent : ∀ payload ∈ payloads, ¬ oneOfLead <:+: payload) (single : '\n' ∉ before) :
    ListReading (before ++ (oneOfLead ++ run)) (.ok (Text.trim before, some payloads)) := by
  obtain ⟨first, others, lines⟩ := List.exists_cons_of_ne_nil (Text.split_ne_nil '\n' run)
  have whole : run = Text.unlines (first :: others) := by
    rw [← lines]
    exact (Text.unlines_lines run).symm
  have each := fun line (member : line ∈ first :: others) =>
    Text.not_mem_of_mem_split (lines ▸ member : line ∈ Text.split '\n' run)
  rw [List.forall_mem_cons] at each
  have split : Text.lines (before ++ (oneOfLead ++ run)) =
      [] ++ (before ++ (oneOfLead ++ first)) :: others := by
    have same : before ++ (oneOfLead ++ run) =
        Text.unlines ((before ++ (oneOfLead ++ first)) :: others) := by
      rw [whole, Text.unlines_cons, Text.unlines_cons]
      simp only [List.append_assoc]
    rw [same, Text.lines_unlines (by simp), List.nil_append]
    refine List.forall_mem_cons.mpr ⟨?_, each.2⟩
    simp only [List.mem_append, not_or]
    exact ⟨single, by decide, each.1⟩
  -- No other lead begins further back, as neither a run nor the rest of the lead has one.
  have last : Text.LastOccurrence oneOfLead (before ++ (oneOfLead ++ first)) before first := by
    rw [Text.lastOccurrence_iff (by decide), Text.splitLast?_eq_some_iff (by decide)]
    refine ⟨rfl, fun found => ?_⟩
    have begins : first <+: run := by
      rw [whole, Text.unlines_cons]
      exact List.prefix_append _ _
    have free : ¬ oneOfLead <:+: oneOfLead.tail ++ run :=
      Text.not_infix_fixed_append (by decide) (not_infix_run written absent)
    exact free (found.trans ((List.prefix_append_right_inj _).mpr begins).isInfix)
  have lead := FirstLead.mk split (List.forall_mem_nil _) last
  rw [← whole] at lead
  exact .listed lead ⟨written, List.prefix_rfl, fun _ _ _ begins => begins.length_le⟩ nonempty

/-- The pass for a list answers as the search for its pattern does.  It answers the text where no
lead occurs; otherwise it takes the longest run of entries behind the last lead of the first line
that has one, and refuses the text where that run is empty.  So a list is read as it is
written. -/
theorem extractOneOf_longest_run (text : Text) :
    Grammar.extractOneOf text = extractOneOf text ∧
      (extractOneOf text = .ok (text, none) ↔ ¬ oneOfLead <:+: text) ∧
      (∀ outcome, extractOneOf text = outcome ↔ ListReading text outcome) ∧
      ∀ before run payloads, text = before ++ (oneOfLead ++ run) → '\n' ∉ before →
        Run run payloads → payloads ≠ [] → (∀ payload ∈ payloads, ¬ oneOfLead <:+: payload) →
          extractOneOf text = .ok (Text.trim before, some payloads) := by
  refine ⟨Grammar.extractOneOf_eq text, extractOneOf_eq_iff.trans ⟨fun reading => ?_, .absent⟩,
    fun outcome => extractOneOf_eq_iff, ?_⟩
  · cases reading with
    | absent nowhere => exact nowhere
  · rintro before run payloads rfl single written nonempty absent
    exact extractOneOf_eq_iff.mpr (listReading_written written nonempty absent single)

/-- A payload may go on in the next line, and a comma need not follow it. -/
theorem extractOneOf_longest_run_severalLines :
    let run := "\x60dict[\nstr, A]\x60,\t\x60B\x60 \x60C\x60".toList
    let payloads := ["dict[\nstr, A]", "B", "C"].map String.toList
    let text := "Any. ".toList ++ (oneOfLead ++ run)
    Run run payloads ∧ (∀ payload ∈ payloads, ¬ oneOfLead <:+: payload) ∧
      extractOneOf text = .ok ("Any.".toList, some payloads) := by
  intro run payloads text
  have first : IsEntry "\x60dict[\nstr, A]\x60,\t".toList "dict[\nstr, A]".toList :=
    @IsEntry.mk "dict[\nstr, A]".toList [',', '\t'] (by decide) (by decide)
      (@IsSeparator.comma ['\t'] (List.all_eq_true.mp rfl))
  have second : IsEntry "\x60B\x60 ".toList "B".toList :=
    @IsEntry.mk ['B'] [' '] (by decide) (by decide) (.blanks (List.all_eq_true.mp rfl))
  have third : IsEntry "\x60C\x60".toList "C".toList :=
    @IsEntry.mk ['C'] [] (by decide) (by decide) (.blanks (List.forall_mem_nil _))
  have written : Run run payloads := .cons first (.cons second (.cons third .nil))
  have absent : ∀ payload ∈ payloads, ¬ oneOfLead <:+: payload := by decide
  have read := (extractOneOf_longest_run text).2.2.2 "Any. ".toList run payloads rfl (by decide)
    written (by decide) absent
  exact ⟨written, absent, read⟩

end Comment

end CommentSchema
