import CommentSchema.Literal.Writer
import CommentSchema.Proofs.Json.Text
import CommentSchema.Proofs.Literal.Plain

/-! Plain values read as JSON from their written form.  One argument serves every way to write
lists and dictionaries with brackets and commas: where it spells texts in double quotes and the
words in small letters the value is read back, and where it may do otherwise the value is read
back or refused. -/

namespace CommentSchema

namespace Json

open Text (Closed)

/-! ### Outcomes -/

/-- The value is found with the rest behind it.  If that is not sure the text may be refused
instead, though not for the number of its digits. -/
def Gives (sure : Bool) (outcome : Except Failure (α × Text)) (found : α) (rest : Text) : Prop :=
  outcome = .ok (found, rest) ∨
    sure = false ∧ ∃ failure, outcome = .error failure ∧ ∀ count, failure ≠ .tooManyDigits count

variable {sure : Bool} {rest after : Text}

theorem Gives.ok (found : α) (rest : Text) : Gives sure (.ok (found, rest)) found rest := .inl rfl

theorem Gives.fail (fault : Fault) (text : Text) (found : α) (rest : Text) :
    Gives false (fail fault text) found rest :=
  .inr ⟨rfl, _, rfl, by simp⟩

theorem Gives.bind {outcome : Except Failure (α × Text)}
    {next : α × Text → Except Failure (β × Text)} {found : α} {result : β}
    (gives : Gives sure outcome found rest)
    (further : Gives sure (next (found, rest)) result after) :
    Gives sure (outcome >>= next) result after := by
  rcases gives with rfl | ⟨unsure, failure, rfl, noCount⟩
  · exact further
  · exact .inr ⟨unsure, failure, rfl, noCount⟩

theorem Gives.map {outcome : Outcome α} {found : α} (gives : Gives sure outcome found rest)
    (change : α → β) :
    Gives sure (outcome.map fun (found, rest) => (change found, rest)) (change found) rest := by
  rcases gives with rfl | ⟨unsure, failure, rfl, noCount⟩
  · exact .ok _ _
  · exact .inr ⟨unsure, failure, rfl, noCount⟩

/-! ### Lists and dictionaries -/

/-- The text begins with something that is no blank, no mark of a byte order and closes no
bracket. -/
def Opens (text : Text) : Prop :=
  ∃ c tail, text = c :: tail ∧ isSpace c = false ∧ c ∉ [']', '\x7d', '\ufeff']

theorem Opens.append {text : Text} (opens : Opens text) (rest : Text) : Opens (text ++ rest) := by
  obtain ⟨c, tail, rfl, visible⟩ := opens
  exact ⟨c, tail ++ rest, rfl, visible⟩

theorem Opens.skipSpace {text : Text} (opens : Opens text) : skipSpace text = text := by
  obtain ⟨c, tail, rfl, visible, -⟩ := opens
  exact List.dropWhile_cons_of_neg (by simp [visible])

/-- The value is read from the text wherever this ends or a comma or a bracket follows. -/
structure ReadBack (sure : Bool) (written : Text) (found : Value) : Prop where
  opens : Opens written
  gives : ∀ {steps depth : Nat} {rest : Text}, 2 * written.length ≤ steps →
    found.nesting ≤ depth → Closed rest →
      Gives sure (value {} steps depth (written ++ rest)) found rest

theorem Opens.join {first : Text} (opens : Opens first) (others : List Text) :
    Opens (Text.join [',', ' '] (first :: others)) := by
  cases others with
  | nil => exact opens
  | cons => simpa [Text.join] using (opens.append _)

theorem gives_items {write : Value → Text} {items : List Value} (nonempty : items ≠ [])
    (each : ∀ item ∈ items, ReadBack sure (write item) item) {steps depth : Nat}
    (enough : 2 * (Text.join [',', ' '] (items.map write)).length < steps)
    (shallow : Value.nestingOfEach items ≤ depth) (rest : Text) :
    Gives sure (Json.items {} steps depth (Text.join [',', ' '] (items.map write) ++ ']' :: rest))
      items rest := by
  induction items generalizing steps with
  | nil => exact absurd rfl nonempty
  | cons first others ih =>
      rw [List.forall_mem_cons] at each
      obtain ⟨readFirst, readOthers⟩ := each
      rw [Value.nestingOfEach] at shallow
      cases steps with
      | zero => omega
      | succ steps =>
          cases others with
          | nil =>
              rw [List.map_singleton, Text.join_singleton] at enough ⊢
              have read : Gives sure (value {} steps depth (write first ++ ']' :: rest)) first
                  (']' :: rest) := readFirst.gives (by omega) (by omega) (.bracket rest)
              rw [Json.items]
              exact read.bind (.ok _ _)
          | cons second others =>
              rw [List.map_cons, Text.join_cons _ _ (by simp)] at enough ⊢
              simp only [List.length_append, List.length_cons, List.length_nil] at enough
              rw [List.append_assoc, List.append_assoc]
              have read : Gives sure (value {} steps depth (write first ++ ',' :: ' ' ::
                  (Text.join [',', ' '] ((second :: others).map write) ++ ']' :: rest))) first _ :=
                readFirst.gives (by omega) (by omega) (.comma _)
              have opens := ((readOthers second (by simp)).opens.join (others.map write)).append
                (']' :: rest)
              have further := @ih (by simp) readOthers steps (by omega) (by omega)
              rw [Json.items]
              refine read.bind ?_
              change Gives sure (Json.items {} steps depth (skipSpace
                (Text.join [',', ' '] ((second :: others).map write) ++ ']' :: rest)) >>= _) _ _
              rw [List.map_cons] at further ⊢
              rw [opens.skipSpace]
              exact further.bind (.ok _ _)

/-- The text is quoted with double quotes and read back, or with single quotes. -/
inductive Quotes (sure : Bool) (text : Text) : Text → Prop where
  | double {body : Text}
      (gives : ∀ opening rest, Gives sure (string opening (body ++ rest)) (text.map .char) rest) :
      Quotes sure text ('\x22' :: body)
  | single {body : Text} (unsure : sure = false) : Quotes sure text ('\x27' :: body)

theorem Quotes.opens {text written : Text} (quotes : Quotes sure text written) :
    Opens written := by
  cases quotes with
  | double => exact ⟨_, _, rfl, by decide⟩
  | single => exact ⟨_, _, rfl, by decide⟩

theorem Quotes.readBack {text written : Text} (quotes : Quotes sure text written) :
    ReadBack sure written (.str text) where
  opens := quotes.opens
  gives := by
    intro steps depth rest enough _ _
    cases quotes with
    | double gives =>
        cases steps with
        | zero => simp at enough
        | succ steps =>
            rw [List.cons_append, value, ← Value.ofPoints_map_char]
            exact (gives _ rest).map Value.ofPoints
    | single unsure =>
        subst unsure
        cases steps with
        | zero => simp at enough
        | succ steps => exact .fail .noValue _ _ _

theorem gives_member {name written : Text} {content : Value} {steps depth : Nat}
    (quotes : Quotes sure name written) {writtenValue : Text}
    (read : ReadBack sure writtenValue content) (enough : 2 * writtenValue.length ≤ steps)
    (shallow : content.nesting ≤ depth) (closed : Closed rest)
    {found : List (Value × Value)}
    (further : Gives sure (match skipSpace rest with
      | '\x7d' :: rest => .ok ([(.str name, content)], rest)
      | ',' :: rest => do
          let (others, rest) ← members {} steps depth (skipSpace rest)
          .ok ((.str name, content) :: others, rest)
      | rest => fail .noComma rest) found after) :
    Gives sure (members {} (steps + 1) depth (written ++ ':' :: ' ' :: writtenValue ++ rest))
      found after := by
  cases quotes with
  | double gives =>
      rw [List.append_assoc, List.cons_append, members]
      refine (gives _ _).bind ?_
      have value := read.gives enough shallow closed
      change Gives sure (Json.value {} steps depth (skipSpace (writtenValue ++ rest)) >>= _) _ _
      rw [(read.opens.append rest).skipSpace, Value.ofPoints_map_char]
      exact value.bind further
  | single unsure =>
      subst unsure
      exact .fail .noPropertyName _ _ _

def writtenMember (write : Value → Text) (member : Text × Value) : Text :=
  write (.str member.1) ++ ':' :: ' ' :: write member.2

theorem Opens.writtenMember {write : Value → Text} {member : Text × Value}
    (opens : Opens (write (.str member.1))) : Opens (writtenMember write member) :=
  opens.append _

theorem gives_members {write : Value → Text} {entries : List (Text × Value)}
    (nonempty : entries ≠ []) (quotes : ∀ text, Quotes sure text (write (.str text)))
    (each : ∀ entry ∈ entries, ReadBack sure (write entry.2) entry.2) {steps depth : Nat}
    (enough : 2 * (Text.join [',', ' '] (entries.map (writtenMember write))).length < steps)
    (shallow : ∀ entry ∈ entries, entry.2.nesting ≤ depth) (rest : Text) :
    Gives sure (members {} steps depth
        (Text.join [',', ' '] (entries.map (writtenMember write)) ++ '\x7d' :: rest))
      (entries.map fun entry => (.str entry.1, entry.2)) rest := by
  induction entries generalizing steps with
  | nil => exact absurd rfl nonempty
  | cons first others ih =>
      rw [List.forall_mem_cons] at each shallow
      obtain ⟨readFirst, readOthers⟩ := each
      obtain ⟨shallowFirst, shallowOthers⟩ := shallow
      have shorter : (write first.2).length ≤ (writtenMember write first).length := by
        simp [writtenMember]
        omega
      cases steps with
      | zero => omega
      | succ steps =>
          cases others with
          | nil =>
              rw [List.map_singleton, Text.join_singleton] at enough ⊢
              exact gives_member (quotes first.1) readFirst (by omega) shallowFirst (.brace rest)
                (.ok _ _)
          | cons second others =>
              rw [List.map_cons, Text.join_cons _ _ (by simp)] at enough ⊢
              simp only [List.length_append, List.length_cons, List.length_nil] at enough
              rw [List.append_assoc, List.append_assoc]
              refine gives_member (quotes first.1) readFirst (by omega) shallowFirst (.comma _) ?_
              have opens := (((quotes second.1).opens.writtenMember.join
                (others.map (writtenMember write))).append ('\x7d' :: rest))
              have further := @ih (by simp) readOthers steps (by omega) shallowOthers
              change Gives sure (members {} steps depth (skipSpace (Text.join [',', ' ']
                ((second :: others).map (writtenMember write)) ++ '\x7d' :: rest)) >>= _) _ _
              rw [List.map_cons] at further ⊢
              rw [opens.skipSpace]
              exact further.bind (.ok _ _)

/-! ### Notations -/

/-- What a word, a number or anything else without parts is written as. -/
structure Leaf (sure : Bool) (written : Text) (found : Value) : Prop where
  starts : ∃ c tail, written = c :: tail ∧
    c ∉ [' ', '\t', '\n', '\r', '\x22', '[', ']', '\x7b', '\x7d', '\ufeff']
  gives : ∀ rest, Closed rest → Gives sure (atom {} (written ++ rest)) found rest

theorem Leaf.readBack {written : Text} {found : Value} (leaf : Leaf sure written found) :
    ReadBack sure written found where
  opens := by
    obtain ⟨c, tail, rfl, ordinary⟩ := leaf.starts
    simp only [List.mem_cons, List.not_mem_nil, or_false, not_or] at ordinary
    refine ⟨c, tail, rfl, ?_, ?_⟩
    · simp [isSpace, ordinary]
    · simp [ordinary]
  gives := by
    intro steps depth rest enough _ closed
    have found := leaf.gives rest closed
    obtain ⟨c, tail, rfl, ordinary⟩ := leaf.starts
    simp only [List.mem_cons, List.not_mem_nil, or_false, not_or] at ordinary
    cases steps with
    | zero => simp at enough
    | succ steps =>
        rw [List.cons_append, value]
        · exact found
        all_goals simp [ordinary]

/-- A way to write plain values that is read back as JSON, or perhaps refused where it is not
sure.  Tuples are never read back. -/
structure Style (sure tuples : Bool) (write : Value → Text) : Prop where
  null : Leaf sure (write .null) .null
  bool : ∀ flag, Leaf sure (write (.bool flag)) (.bool flag)
  int : ∀ n, write (.int n) = Text.ofInt n
  str : ∀ text, Quotes sure text (write (.str text))
  list : ∀ items, write (.list items) = '[' :: Text.join [',', ' '] (items.map write) ++ [']']
  tuple : tuples = true → ∀ items, Leaf sure (write (.tuple items)) (.tuple items)
  dict : ∀ members : List (Text × Value),
    write (.dict (members.map fun member => (.str member.1, member.2))) =
      '\x7b' :: Text.join [',', ' '] (members.map (writtenMember write)) ++ ['\x7d']

theorem leaf_int {n : Int} (short : (Text.digitsOf 10 n.natAbs).length ≤ 4300) :
    Leaf sure (Text.ofInt n) (.int n) where
  starts := by
    cases n with
    | ofNat n =>
        obtain ⟨c, digits, starts, digit, -⟩ := Text.digitsOf_eq_cons n
        refine ⟨c, digits, starts, ?_⟩
        intro special
        have none : [' ', '\t', '\n', '\r', '\x22', '[', ']', '\x7b', '\x7d', '\ufeff'].any
            Text.isDigit = false := by
          decide
        exact List.any_eq_false.mp none c special digit
    | negSucc n => exact ⟨'-', _, rfl, by decide⟩
  gives := by
    intro rest closed
    rw [atom_ofInt short closed]
    exact .ok _ _

theorem value_bracket {body : Text} (opens : Opens body) (steps depth : Nat) :
    value {} (steps + 1) (depth + 1) ('[' :: body) =
      (items {} steps depth body).map fun (items, rest) => (.list items, rest) := by
  rw [value, opens.skipSpace]
  obtain ⟨c, tail, rfl, -, ordinary⟩ := opens
  split
  · next same =>
      cases same
      simp at ordinary
  · rfl

theorem value_brace {body : Text} (opens : Opens body) (steps depth : Nat) :
    value {} (steps + 1) (depth + 1) ('\x7b' :: body) =
      (members {} steps depth body).map fun (members, rest) => (Value.ofEntries members, rest) := by
  rw [value, opens.skipSpace]
  obtain ⟨c, tail, rfl, -, ordinary⟩ := opens
  split
  · next same =>
      cases same
      simp at ordinary
  · rfl

theorem readBack_list {write : Value → Text} {items : List Value}
    (each : ∀ item ∈ items, ReadBack sure (write item) item) :
    ReadBack sure ('[' :: Text.join [',', ' '] (items.map write) ++ [']']) (.list items) where
  opens := ⟨'[', _, rfl, by decide⟩
  gives := by
    intro steps depth rest enough shallow _
    rw [Value.nesting] at shallow
    simp only [List.cons_append, List.length_cons, List.length_append, List.length_nil] at enough
    obtain ⟨depth, rfl⟩ : ∃ lower, depth = lower + 1 := ⟨depth - 1, by omega⟩
    obtain ⟨steps, rfl⟩ : ∃ fewer, steps = fewer + 1 := ⟨steps - 1, by omega⟩
    cases items with
    | nil => exact .ok _ _
    | cons first others =>
        have opens := ((each first (by simp)).opens.join (others.map write)).append (']' :: rest)
        have read : Gives sure (Json.items {} steps depth _) (first :: others) rest :=
          gives_items (by simp) each (by omega) (by omega) rest
        rw [List.cons_append, List.cons_append, List.append_assoc, List.singleton_append,
          List.map_cons, value_bracket opens]
        exact read.map Value.list

theorem readBack_dict {write : Value → Text} {members : List (Text × Value)}
    (quotes : ∀ text, Quotes sure text (write (.str text)))
    (distinct : (members.map (·.1)).Nodup)
    (each : ∀ member ∈ members, ReadBack sure (write member.2) member.2) :
    ReadBack sure ('\x7b' :: Text.join [',', ' '] (members.map (writtenMember write)) ++ ['\x7d'])
      (.dict (members.map fun member => (.str member.1, member.2))) where
  opens := ⟨'\x7b', _, rfl, by decide⟩
  gives := by
    intro steps depth rest enough shallow _
    rw [Value.nesting] at shallow
    simp only [List.cons_append, List.length_cons, List.length_append, List.length_nil] at enough
    obtain ⟨depth, rfl⟩ : ∃ lower, depth = lower + 1 := ⟨depth - 1, by omega⟩
    obtain ⟨steps, rfl⟩ : ∃ fewer, steps = fewer + 1 := ⟨steps - 1, by omega⟩
    have shallowEach : ∀ member ∈ members, member.2.nesting ≤ depth := by
      intro member listed
      have bound := Value.nesting_le_of_mem_entries
        (List.mem_map_of_mem (f := fun member : Text × Value => (Value.str member.1, member.2))
          listed)
      dsimp only at bound
      omega
    cases members with
    | nil => exact .ok _ _
    | cons first others =>
        have opens := ((quotes first.1).opens.writtenMember.join
          (others.map (writtenMember write))).append ('\x7d' :: rest)
        have read := gives_members (by simp) quotes each (show _ < steps by omega) shallowEach rest
        rw [List.cons_append, List.cons_append, List.append_assoc, List.singleton_append,
          List.map_cons, value_brace opens, ← Value.ofEntries_of_distinct distinct]
        exact read.map Value.ofEntries

theorem Style.readBack {tuples : Bool} {write : Value → Text} (style : Style sure tuples write)
    {found : Value} (plain : Value.Plain tuples found) : ReadBack sure (write found) found := by
  induction plain with
  | null => exact style.null.readBack
  | bool flag => exact (style.bool flag).readBack
  | int n short =>
      rw [style.int]
      exact (leaf_int short).readBack
  | str text => exact (style.str text).readBack
  | tuple allowed _ _ => exact (style.tuple allowed _).readBack
  | list _ each =>
      rw [style.list]
      exact readBack_list each
  | dict distinct _ each =>
      rw [style.dict]
      exact readBack_dict style.str distinct each

/-- A text is read as JSON if it is all that is read of it. -/
theorem read_of_gives {text : Text} {found : Value} (opens : Opens text)
    (gives : Gives sure (value {} (2 * text.length + 2) 990 text) found []) :
    read {} text = .ok found ∨ sure = false ∧ ∃ failure,
      read {} text = .error failure ∧ ∀ count, failure ≠ .tooManyDigits count := by
  have skipped := opens.skipSpace
  obtain ⟨c, tail, rfl, -, ordinary⟩ := opens
  have noMark : ∀ rest, c :: tail ≠ '\ufeff' :: rest := by
    intro rest same
    cases same
    simp at ordinary
  rw [read, skipped]
  · rcases gives with same | ⟨unsure, failure, same, noCount⟩
    · rw [same]
      exact .inl rfl
    · rw [same]
      exact .inr ⟨unsure, failure, rfl, noCount⟩
  · exact noMark

theorem Style.read {tuples : Bool} {write : Value → Text} (style : Style sure tuples write)
    {found : Value} (plain : Value.Plain tuples found) (shallow : found.nesting ≤ 990) :
    read {} (write found) = .ok found ∨ sure = false ∧ ∃ failure,
      read {} (write found) = .error failure ∧ ∀ count, failure ≠ .tooManyDigits count := by
  have readBack := style.readBack plain
  have gives :
      Gives sure (value {} (2 * (write found).length + 2) 990 (write found ++ [])) found [] :=
    readBack.gives (by omega) shallow .end
  rw [List.append_nil] at gives
  exact read_of_gives readBack.opens gives

/-! ### Values written as JSON and as literals -/

theorem writeEach_eq_map (ascii : Bool) (items : List Value) :
    writeEach ascii items = items.map (write ascii) := by
  induction items with
  | nil => rfl
  | cons first rest ih => rw [writeEach, ih, List.map_cons]

theorem writeEntries_eq_map (ascii : Bool) (members : List (Text × Value)) :
    writeEntries ascii (members.map fun member => (.str member.1, member.2)) =
      members.map (writtenMember (write ascii)) := by
  induction members with
  | nil => rfl
  | cons first rest ih =>
      rw [List.map_cons, writeEntries, ih, List.map_cons]
      rfl

theorem style_write (ascii : Bool) : Style true false (write ascii) where
  null := ⟨⟨'n', _, rfl, by decide⟩, fun rest _ => .inl rfl⟩
  bool := by
    intro flag
    cases flag with
    | false => exact ⟨⟨'f', _, rfl, by decide⟩, fun rest _ => .inl rfl⟩
    | true => exact ⟨⟨'t', _, rfl, by decide⟩, fun rest _ => .inl rfl⟩
  int := fun _ => rfl
  str := by
    intro text
    refine .double fun opening rest => .inl ?_
    change string opening (text.flatMap (escapeChar ascii) ++ ['\x22'] ++ rest) = _
    rw [List.append_assoc]
    exact string_spelled (fun c _ => spells_escapeChar ascii c) opening rest
  list := by
    intro items
    rw [write, writeEach_eq_map]
  tuple := nofun
  dict := by
    intro members
    rw [write, writeEntries_eq_map]

/-- A value written as JSON is read back. -/
theorem read_write {found : Value} (plain : Value.Plain false found)
    (shallow : found.nesting ≤ 990) (ascii : Bool) : read {} (write ascii found) = .ok found :=
  ((style_write ascii).read plain shallow).resolve_right (by simp)

end Json

namespace Literal

open Json

theorem style_write : Style false true write where
  null := ⟨⟨'N', _, rfl, by decide⟩, fun rest _ => .fail .noValue _ _ _⟩
  bool := by
    intro flag
    cases flag with
    | false => exact ⟨⟨'F', _, rfl, by decide⟩, fun rest _ => .fail .noValue _ _ _⟩
    | true => exact ⟨⟨'T', _, rfl, by decide⟩, fun rest _ => .fail .noValue _ _ _⟩
  int := fun _ => rfl
  str := by
    intro text
    change Quotes false text (Text.quote text)
    rw [Text.quote_eq, List.cons_append]
    rcases Text.quoteMark_eq text with mark | mark
    · rw [mark]
      exact .single rfl
    · rw [mark]
      refine .double fun opening rest => ?_
      rw [List.append_assoc]
      rcases string_escaped (fun c _ => spells_or_refused (Text.escapes_escapeFor '\x22' c))
        opening rest with same | ⟨fault, left, same⟩
      · exact .inl same
      · exact .inr ⟨rfl, _, same, by simp⟩
  list := write_list
  tuple := by
    intro _ items
    rw [write_tuple]
    exact ⟨⟨'(', _, rfl, by decide⟩, fun rest _ => .fail .noValue _ _ _⟩
  dict := by
    intro members
    rw [write_dict, List.map_map]
    rfl

end Literal

end CommentSchema
