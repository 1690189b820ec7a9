import CommentSchema.Proofs.Text.Erasure
import CommentSchema.Text.Pattern

/-! What a search finds.  A run of characters is taken as far as what follows it allows, so the
first offer of a pattern that begins with such a run is at the last place that fits what
follows; and where no match goes beyond a line, a search goes line by line. -/

namespace CommentSchema

namespace Text

/-- The beginnings of a text that consist of fitting characters, the longest first, with what
is left. -/
def fronts (fits : Char → Bool) : Text → List (Text × Text)
  | [] => [([], [])]
  | c :: rest =>
      (if fits c then (fronts fits rest).map (Prod.map (c :: ·) id) else []) ++ [([], c :: rest)]

/-- The last place of a text at which something is found, and the text in front of it. -/
def lastAt? (next : Text → Option β) : Text → Option (Text × β)
  | [] => (next []).map ([], ·)
  | c :: rest =>
      ((lastAt? next rest).map (Prod.map (c :: ·) id)).or ((next (c :: rest)).map ([], ·))

/-- What stands behind a line: nothing, or a line feed and the other lines. -/
def behind : List Text → Text
  | [] => []
  | line :: rest => '\n' :: unlines (line :: rest)

/-- The line feed in front of further lines. -/
def feed : List Text → Text
  | [] => []
  | _ :: _ => ['\n']

theorem behind_eq (others : List Text) : behind others = feed others ++ unlines others := by
  cases others <;> rfl

theorem unlines_cons (line : Text) (rest : List Text) :
    unlines (line :: rest) = line ++ behind rest := by
  cases rest with
  | nil => simp [unlines, behind]
  | cons next others => simp [unlines, behind, join]

theorem unlines_cons_cons (line next : Text) (rest : List Text) :
    unlines (line :: next :: rest) = line ++ '\n' :: unlines (next :: rest) := by
  rw [unlines_cons, behind]

theorem isPrefixOf?_append_behind {word : Text} (single : '\n' ∉ word) (text : Text)
    (others : List Text) :
    word.isPrefixOf? (text ++ behind others) =
      (word.isPrefixOf? text).map (· ++ behind others) := by
  cases found : word.isPrefixOf? text with
  | some after =>
      rw [← List.isPrefixOf?_eq_some_iff_append_eq.mp found, List.append_assoc,
        isPrefixOf?_append, Option.map_some]
  | none =>
      refine isPrefixOf?_eq_none fun begins => ?_
      have inside : word <+: text := by
        cases others with
        | nil => simpa [behind] using begins
        | cons line rest => exact (prefix_append_cons_iff single text _).mp begins
      obtain ⟨after, rfl⟩ := inside
      rw [isPrefixOf?_append] at found
      cases found

/-- The first line that is read, together with the lines behind it. -/
def firstLine? (reader : Text → List Text → Option β) : List Text → Option β
  | [] => none
  | line :: rest => (reader line rest).or (firstLine? reader rest)

theorem firstLine?_eq_findSome? (reader : Text → Option β) (lines : List Text) :
    firstLine? (fun line _ => reader line) lines = lines.findSome? reader := by
  induction lines with
  | nil => rfl
  | cons line rest ih =>
      rw [firstLine?, ih, List.findSome?_cons]
      cases reader line <;> rfl

theorem firstLine?_map (reader : Text → List Text → Option α) (change : α → β)
    (lines : List Text) :
    firstLine? (fun line others => (reader line others).map change) lines =
      (firstLine? reader lines).map change := by
  induction lines with
  | nil => rfl
  | cons line rest ih => rw [firstLine?, firstLine?, ih, Option.map_or]

section

variable {fits : Char → Bool} {line after : Text}

theorem fronts_of_stops (stops : ∀ c ∈ after.head?, fits c = false) :
    fronts fits after = [([], after)] := by
  cases after with
  | nil => rfl
  | cons c rest => simp [fronts, stops c rfl]

theorem findSome?_fronts (within : ∀ c ∈ line, fits c = true)
    (stops : ∀ c ∈ after.head?, fits c = false) (next : Text → Option β) (make : Text → β → γ) :
    ((fronts fits (line ++ after)).findSome? fun front => (next front.2).map (make front.1)) =
      (lastAt? (fun rest => next (rest ++ after)) line).map fun last => make last.1 last.2 := by
  induction line generalizing make with
  | nil =>
      rw [List.nil_append, fronts_of_stops stops]
      simp [lastAt?, Function.comp_def]
  | cons c line ih =>
      rw [List.forall_mem_cons] at within
      have others := ih within.2 fun taken found => make (c :: taken) found
      simp only [List.cons_append, fronts, within.1, if_true, List.findSome?_append,
        List.findSome?_map, lastAt?, Option.map_or, Option.map_map]
      congr 1
      simp [Function.comp_def]

theorem lastAt?_map (next : Text → Option β) (change : β → γ) (text : Text) :
    lastAt? (fun rest => (next rest).map change) text =
      (lastAt? next text).map (Prod.map id change) := by
  induction text with
  | nil => simp [lastAt?, Function.comp_def]
  | cons c rest ih =>
      simp only [lastAt?, Option.map_or, Option.map_map, ih]
      rfl

theorem lastAt?_congr {next next' : Text → Option β} {text : Text}
    (same : ∀ rest, rest <:+ text → next rest = next' rest) :
    lastAt? next text = lastAt? next' text := by
  induction text with
  | nil => rw [lastAt?, lastAt?, same [] List.suffix_rfl]
  | cons c rest ih =>
      rw [lastAt?, lastAt?, same _ List.suffix_rfl,
        ih fun tail isTail => same tail (isTail.trans (List.suffix_cons c rest))]

theorem lastAt?_of_end {next : Text → Option β}
    (only : ∀ c rest, c ∈ line → next (c :: rest) = none) :
    lastAt? next line = (next []).map (line, ·) := by
  induction line with
  | nil => rfl
  | cons c line ih =>
      have others := ih fun d rest member => only d rest (List.mem_cons_of_mem c member)
      simp only [lastAt?, others, only c line List.mem_cons_self, Option.map_map, Option.map_none,
        Option.or_none]
      rfl

end

end Text

namespace Pattern

/-- What the pattern offers does not depend on where a line begins. -/
def placeless : Pattern → Bool
  | lineStart => false
  | lineEnd | one _ | word _ => true
  | both first second | either first second => first.placeless && second.placeless
  | many inner | group _ inner => inner.placeless

theorem repeated_congr {offers : Bool → Text → List Match}
    (same : ∀ fresh text, offers fresh text = offers true text) (steps : Nat) (fresh : Bool)
    (text : Text) : repeated offers steps fresh text = repeated offers steps true text := by
  induction steps generalizing fresh text with
  | zero => rfl
  | succ steps ih =>
      rw [repeated, repeated, same fresh]
      congr 2
      funext first
      rw [ih, ih (first.startsLine true)]

theorem offers_of_placeless {pattern : Pattern} (placeless : pattern.placeless) (fresh : Bool)
    (text : Text) : pattern.offers fresh text = pattern.offers true text := by
  induction pattern generalizing fresh text with
  | lineStart => cases placeless
  | lineEnd | word => rfl
  | one fits => cases text <;> rfl
  | both first second inFirst inSecond =>
      simp only [Pattern.placeless, Bool.and_eq_true] at placeless
      rw [offers, offers, inFirst placeless.1]
      congr 1
      funext found
      rw [inSecond placeless.2, inSecond placeless.2 (found.startsLine true)]
  | either first second inFirst inSecond =>
      simp only [Pattern.placeless, Bool.and_eq_true] at placeless
      rw [offers, offers, inFirst placeless.1, inSecond placeless.2]
  | many inner inInner => exact repeated_congr (inInner placeless) _ _ _
  | group number inner inInner => rw [offers, offers, inInner placeless]

section

variable {pattern first second : Pattern} {fresh : Bool} {text : Text}

theorem first?_of_placeless (placeless : pattern.placeless) (fresh : Bool) (text : Text) :
    pattern.first? fresh text = pattern.first? true text := by
  rw [first?, first?, offers_of_placeless placeless]

theorem first?_both :
    (both first second).first? fresh text = (first.offers fresh text).findSome? fun found =>
      (second.first? (found.startsLine fresh) found.rest).map found.append := by
  simp only [first?, offers, List.head?_flatMap, List.head?_map]

theorem first?_either :
    (either first second).first? fresh text =
      (first.first? fresh text).or (second.first? fresh text) := by
  simp only [first?, offers, List.head?_append]

theorem first?_either_both {other : Pattern} :
    (both (either first second) other).first? fresh text =
      ((both first other).first? fresh text).or ((both second other).first? fresh text) := by
  simp only [first?_both, offers, List.findSome?_append]

theorem first?_group (number : Nat) :
    (group number pattern).first? fresh text =
      (pattern.first? fresh text).map (.inGroup number) := by
  simp only [first?, offers, List.head?_map]

/-- The first offers fit together where what follows takes whatever is left. -/
theorem first?_both_of_some {found next : Match} (here : first.first? fresh text = some found)
    (behind : second.first? (found.startsLine fresh) found.rest = some next) :
    (both first second).first? fresh text = some (found.append next) := by
  obtain ⟨others, offered⟩ := List.head?_eq_some_iff.mp here
  rw [first?_both, offered, List.findSome?_cons, behind]
  rfl

theorem first?_word (word : Text) :
    (Pattern.word word).first? fresh text = (word.isPrefixOf? text).map (⟨word, [], ·⟩) := by
  cases found : word.isPrefixOf? text <;> simp [first?, offers, found]

theorem first?_word_both (word : Text) (placeless : second.placeless) :
    (both (.word word) second).first? fresh text =
      (word.isPrefixOf? text).bind fun rest =>
        (second.first? true rest).map fun found =>
          ⟨word ++ found.taken, found.groups, found.rest⟩ := by
  rw [first?_both]
  cases found : word.isPrefixOf? text with
  | none => simp [offers, found]
  | some rest =>
      have joined : (⟨word, [], rest⟩ : Match).append =
          fun found => ⟨word ++ found.taken, found.groups, found.rest⟩ := by
        funext found
        simp [Match.append]
      simp only [offers, found, Option.toList_some, List.map_cons, List.map_nil,
        List.findSome?_singleton, Option.bind_some, joined]
      rw [first?_of_placeless placeless]

theorem first?_lineStart_both :
    (both lineStart second).first? fresh text =
      if fresh then second.first? true text else none := by
  rw [first?_both]
  cases fresh with
  | false => rfl
  | true =>
      have unchanged : (Match.nothing text).append = id := by
        funext found
        simp [Match.nothing, Match.append]
      simp only [offers, if_true, List.findSome?_singleton, unchanged, Option.map_id_fun, id]
      rfl

/-! ### Runs of characters -/

theorem offers_many_one (fits : Char → Bool) :
    (many (one fits)).offers fresh text =
      (Text.fronts fits text).map fun front => ⟨front.1, [], front.2⟩ := by
  induction text generalizing fresh with
  | nil => rfl
  | cons c rest ih =>
      simp only [offers] at ih
      simp only [offers, List.length_cons, repeated, Text.fronts]
      cases fit : fits c with
      | false => rfl
      | true => simp [ih, Match.append, Match.nothing, Function.comp_def]

theorem first?_many_one (fits : Char → Bool) (fresh : Bool) (text : Text) :
    (many (one fits)).first? fresh text =
      some ⟨text.takeWhile fits, [], text.dropWhile fits⟩ := by
  rw [first?, offers_many_one, List.head?_map]
  induction text with
  | nil => rfl
  | cons c rest ih =>
      cases fit : fits c with
      | false => simp [Text.fronts, fit]
      | true =>
          obtain ⟨front, here, same⟩ := Option.map_eq_some_iff.mp ih
          simp only [Match.mk.injEq, true_and] at same
          simp [Text.fronts, fit, List.head?_append, here, same]

variable {fits : Char → Bool} {line after : Text}

/-- Behind a run of characters the pattern is offered first at the last place that it fits. -/
theorem first?_run_both (number : Nat) (placeless : second.placeless)
    (within : ∀ c ∈ line, fits c = true) (stops : ∀ c ∈ after.head?, fits c = false) :
    (both (group number (many (one fits))) second).first? fresh (line ++ after) =
      (Text.lastAt? (fun rest => second.first? true (rest ++ after)) line).map fun last =>
        (⟨last.1, [(number, last.1)], []⟩ : Match).append last.2 := by
  rw [← Text.findSome?_fronts within stops (second.first? true)
    fun taken => (⟨taken, [(number, taken)], []⟩ : Match).append, first?_both, offers,
    offers_many_one, List.findSome?_map, List.findSome?_map]
  congr 1
  funext front
  simp only [Function.comp_apply, first?_of_placeless placeless]
  rfl

/-- The groups that are filled behind a run, and the run as one more group. -/
theorem groups_run_both (number : Nat) (placeless : second.placeless)
    (within : ∀ c ∈ line, fits c = true) (stops : ∀ c ∈ after.head?, fits c = false) :
    ((both (group number (many (one fits))) second).first? fresh (line ++ after)).map (·.groups) =
      (Text.lastAt? (fun rest => (second.first? true (rest ++ after)).map (·.groups)) line).map
        fun last => last.2 ++ [(number, last.1)] := by
  rw [first?_run_both number placeless within stops, Text.lastAt?_map, Option.map_map,
    Option.map_map]
  rfl

/-- A run of characters is taken as a whole where no character of it begins what follows. -/
theorem first?_several_both (number : Nat) (placeless : second.placeless)
    (within : ∀ c ∈ line, fits c = true) (stops : ∀ c ∈ after.head?, fits c = false)
    (behind : ∀ c rest, fits c = true → second.first? true (c :: rest) = none) :
    (both (group number (several (one fits))) second).first? fresh (line ++ after) =
      if line = [] then none
      else (second.first? true after).map (⟨line, [(number, line)], []⟩ : Match).append := by
  cases line with
  | nil =>
      have nothing : (several (one fits)).offers fresh after = [] := by
        cases after with
        | nil => rfl
        | cons c rest => simp [several, offers, stops c rfl]
      rw [first?_both, offers, List.nil_append, nothing]
      rfl
  | cons c line =>
      rw [List.forall_mem_cons] at within
      have offered : (several (one fits)).offers fresh (c :: (line ++ after)) =
          (Text.fronts fits (line ++ after)).map fun front => ⟨c :: front.1, [], front.2⟩ := by
        have first : (one fits).offers fresh (c :: (line ++ after)) =
            [⟨[c], [], line ++ after⟩] := by simp [offers, within.1]
        rw [several, offers, first, List.flatMap_singleton, offers_many_one, List.map_map]
        rfl
      have atEnd : Text.lastAt? (fun rest => second.first? true (rest ++ after)) line =
          (second.first? true ([] ++ after)).map (line, ·) :=
        Text.lastAt?_of_end fun d rest member => behind d (rest ++ after) (within.2 d member)
      have found := Text.findSome?_fronts within.2 stops (second.first? true)
        fun taken => (⟨c :: taken, [(number, c :: taken)], []⟩ : Match).append
      rw [atEnd, List.nil_append, Option.map_map] at found
      rw [if_neg (List.cons_ne_nil c line), first?_both, List.cons_append, offers, offered,
        List.findSome?_map, List.findSome?_map]
      refine Eq.trans ?_ found
      congr 1
      funext front
      simp only [Function.comp_apply, first?_of_placeless placeless]
      rfl

end

/-! ### Repetitions -/

section

variable {offers : Bool → Text → List Match} {fresh : Bool} {text : Text}

theorem repeated_ne_nil (offers : Bool → Text → List Match) (steps : Nat) (fresh : Bool)
    (text : Text) : repeated offers steps fresh text ≠ [] := by
  cases steps <;> simp [repeated]

/-- What takes something and is offered first comes first in a repetition too. -/
theorem head?_repeated_of_some {first : Match} (here : (offers fresh text).head? = some first)
    (takes : first.taken ≠ []) (steps : Nat) :
    (repeated offers (steps + 1) fresh text).head? =
      (repeated offers steps (first.startsLine fresh) first.rest).head?.map first.append := by
  obtain ⟨others, offered⟩ := List.head?_eq_some_iff.mp here
  obtain ⟨next, rest, more⟩ := List.exists_cons_of_ne_nil
    (repeated_ne_nil offers steps (first.startsLine fresh) first.rest)
  have kept : (!first.taken.isEmpty) = true := by simpa using takes
  rw [repeated, offered, List.filter_cons, if_pos kept, List.flatMap_cons, more]
  rfl

theorem head?_repeated_of_none (here : (offers fresh text).head? = none) (steps : Nat) :
    (repeated offers (steps + 1) fresh text).head? = some (.nothing text) := by
  rw [repeated, List.head?_eq_none_iff.mp here]
  rfl

end

/-! ### Searches -/

section

variable {pattern : Pattern} {fresh : Bool} {text line : Text} {others : List Text}

@[simp] theorem piecesFrom_nil : pattern.piecesFrom fresh [] = [] := by rw [piecesFrom]

theorem piecesFrom_of_some {found : Match} (here : pattern.first? fresh text = some found)
    (takes : found.rest.length < text.length) :
    pattern.piecesFrom fresh text =
      .inr found :: pattern.piecesFrom (found.startsLine fresh) found.rest := by
  cases text with
  | nil => cases takes
  | cons c rest =>
      rw [piecesFrom, here]
      exact if_pos (Nat.le_of_lt_succ takes)

theorem piecesFrom_of_none {c : Char} {rest : Text}
    (here : pattern.first? fresh (c :: rest) = none) :
    pattern.piecesFrom fresh (c :: rest) = .inl c :: pattern.piecesFrom (c == '\n') rest := by
  rw [piecesFrom, here]

/-- Where a search finds nothing at a place, it finds nothing in the rest of the line either. -/
def GoesByLine (pattern : Pattern) : Prop :=
  ∀ fresh c line others, '\n' ∉ c :: line →
    pattern.first? fresh (c :: (line ++ Text.behind others)) = none →
      pattern.first? false (line ++ Text.behind others) = none

theorem goesByLine_lineStart (second : Pattern) : (both lineStart second).GoesByLine := by
  intro fresh c line others single none
  rw [first?_lineStart_both, if_neg Bool.false_ne_true]

/-- A pattern goes by line where a reader of lines does that reads what the pattern finds. -/
theorem goesByLine_of_reads (placeless : pattern.placeless) {view : Match → β}
    {reader : Text → List Text → Option β}
    (reads : ∀ line others, '\n' ∉ line →
      (pattern.first? true (line ++ Text.behind others)).map view = reader line others)
    (byLine : ∀ c line others, reader (c :: line) others = none → reader line others = none) :
    pattern.GoesByLine := by
  intro fresh c line others single none
  rw [first?_of_placeless placeless] at none ⊢
  have whole := reads (c :: line) others single
  rw [List.cons_append, none, Option.map_none] at whole
  have rest := reads line others fun member => single (List.mem_cons_of_mem c member)
  rwa [byLine c line others whole.symm, Option.map_eq_none_iff] at rest

theorem searchFrom_line (byLine : pattern.GoesByLine) (single : '\n' ∉ line) (fresh : Bool) :
    pattern.searchFrom fresh (line ++ Text.behind others) =
      (pattern.first? fresh (line ++ Text.behind others)).or
        (if others = [] then none else pattern.search (Text.unlines others)) := by
  induction line generalizing fresh with
  | nil =>
      cases others with
      | nil => simp [Text.behind, searchFrom]
      | cons next rest => simp [Text.behind, searchFrom, search]
  | cons c line ih =>
      have within := single
      rw [List.mem_cons, not_or] at within
      have inside : (c == '\n') = false := beq_eq_false_iff_ne.mpr (Ne.symm within.1)
      rw [List.cons_append, searchFrom, inside, ih within.2]
      cases here : pattern.first? fresh (c :: (line ++ Text.behind others)) with
      | some found => rfl
      | none => rw [byLine fresh c line others single here, Option.none_or, Option.none_or]

/-- A line without a match is kept, with the line feed that ends it. -/
theorem piecesFrom_line (byLine : pattern.GoesByLine) (single : '\n' ∉ line)
    (nowhere : pattern.first? fresh (line ++ Text.behind others) = none) :
    pattern.piecesFrom fresh (line ++ Text.behind others) =
      (line ++ Text.feed others).map .inl ++ pattern.pieces (Text.unlines others) := by
  induction line generalizing fresh with
  | nil =>
      cases others with
      | nil => simp [Text.behind, Text.feed, Text.unlines, pieces]
      | cons next rest => exact piecesFrom_of_none nowhere
  | cons c line ih =>
      have within := single
      rw [List.mem_cons, not_or] at within
      have inside : (c == '\n') = false := beq_eq_false_iff_ne.mpr (Ne.symm within.1)
      have next := byLine fresh c line others single nowhere
      rw [List.cons_append] at nowhere ⊢
      rw [piecesFrom_of_none nowhere, inside, ih within.2 next]
      rfl

/-- A search finds what a reader of lines finds on the first line that it reads. -/
theorem search_eq_firstLine? (byLine : pattern.GoesByLine)
    {view : Match → β} {reader : Text → List Text → Option β}
    (reads : ∀ line others, '\n' ∉ line →
      (pattern.first? true (line ++ Text.behind others)).map view = reader line others)
    (text : Text) :
    (pattern.search text).map view = Text.firstLine? reader (Text.lines text) := by
  have found (lines : List Text) (nonempty : lines ≠ []) (each : ∀ line ∈ lines, '\n' ∉ line) :
      (pattern.search (Text.unlines lines)).map view = Text.firstLine? reader lines := by
    induction lines with
    | nil => exact absurd rfl nonempty
    | cons line rest ih =>
        rw [List.forall_mem_cons] at each
        rw [Text.unlines_cons, search, searchFrom_line byLine each.1, Option.map_or,
          reads line rest each.1, Text.firstLine?]
        cases rest with
        | nil => rfl
        | cons next others => rw [if_neg (List.cons_ne_nil next others), ih (by simp) each.2]
  have whole := found (Text.lines text) (Text.split_ne_nil '\n' text)
    fun line => Text.not_mem_of_mem_split
  rwa [Text.unlines_lines] at whole

end

end Pattern

end CommentSchema
