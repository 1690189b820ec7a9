import CommentSchema.Literal
import CommentSchema.Proofs.Expr.Atom
import CommentSchema.Proofs.Expr.Weight
import CommentSchema.Proofs.Literal.Lexed

/-! The tokens of a written literal read as an expression, and the value of this expression.
Every display is read from the inside: its elements are expressions that end where a comma, a
colon or the closing bracket stands. -/

namespace CommentSchema

namespace Expr

/-! ### Elements -/

/-- The tokens are read as the expression, twelve steps for each of them being enough. -/
structure ReadsAs [Dialect] (tokens : Tokens) (expr : Expr) : Prop where
  begins : ∃ first tail, tokens = first :: tail ∧
    (startsAtom first = true ∨ first = .symbol .minus)
  unstarred : expr.isStarred = false
  read : ∀ {steps : Nat} {rest : Tokens}, 12 * tokens.length ≤ steps → Stops rest →
    readExpression steps (tokens ++ rest) = some (expr, rest)

variable {tokens rest : Tokens} {expr : Expr} {steps : Nat}

theorem startsNamed_of_begins {first : Token} {tail : Tokens}
    (begins : startsAtom first = true ∨ first = .symbol .minus) :
    startsNamed (first :: tail) = false := by
  cases first with
  | name id => simp [startsAtom] at begins
  | _ => rfl

/-- The symbols that end a display. -/
inductive Closing : Symbol → Prop where
  | paren : Closing .closeParen
  | bracket : Closing .closeBracket
  | brace : Closing .closeBrace

theorem expect?_of_begins {closing : Symbol} {first : Token} {tail : Tokens}
    (begins : startsAtom first = true ∨ first = .symbol .minus)
    (closes : Closing closing) :
    expect? closing (first :: tail) = none := by
  cases first with
  | symbol symbol =>
      have other : symbol ≠ closing := by
        rintro rfl
        cases closes with
        | _ => simp [startsAtom] at begins
      exact if_neg other
  | _ => rfl

theorem ReadsAs.element [Dialect] (reads : ReadsAs tokens expr)
    (enough : 12 * tokens.length + 2 ≤ steps)
    (stops : Stops rest) : readElement steps (tokens ++ rest) = some (expr, rest) := by
  obtain ⟨steps, rfl⟩ : ∃ fewer, steps = fewer + 2 := ⟨steps - 2, by omega⟩
  have read : readExpression steps (tokens ++ rest) = some (expr, rest) :=
    reads.read (by omega) stops
  obtain ⟨first, tail, rfl, begins⟩ := reads.begins
  have named : readNamed (steps + 1) (first :: tail ++ rest) = some (expr, rest) := by
    rw [readNamed, read]
    · cases stops with
      | _ => rfl
    · rintro id others same
      obtain ⟨rfl, -⟩ := List.cons.inj same
      simp [startsAtom] at begins
  rw [readElement]
  · exact named
  · rintro others same
    obtain ⟨rfl, -⟩ := List.cons.inj same
    simp [startsAtom] at begins

/-- Groups of tokens, each with a comma in front of it. -/
def moreTokens (groups : List Tokens) : Tokens := groups.flatMap (.symbol .comma :: ·)

theorem stops_closing {closing : Symbol} (closes : Closing closing)
    (rest : Tokens) : Stops (.symbol closing :: rest) := by
  cases closes with
  | paren => exact .closeParen rest
  | bracket => exact .closeBracket rest
  | brace => exact .closeBrace rest

theorem stops_moreTokens {closing : Symbol} (closes : Closing closing)
    (groups : List Tokens) (rest : Tokens) :
    Stops (moreTokens groups ++ .symbol closing :: rest) := by
  cases groups with
  | nil => exact stops_closing closes rest
  | cons group groups => exact .comma _

theorem readMoreElements_moreTokens [Dialect] {closing : Symbol} {groups : List Tokens}
    {exprs : List Expr} (closes : Closing closing) (each : List.Forall₂ ReadsAs groups exprs)
    (enough : 12 * (moreTokens groups).length < steps) (rest : Tokens) :
    readMoreElements steps closing (moreTokens groups ++ .symbol closing :: rest) =
      some (exprs, rest) := by
  induction each generalizing steps with
  | nil =>
      cases steps with
      | zero => omega
      | succ steps =>
          rw [moreTokens, List.flatMap_nil, List.nil_append, readMoreElements]
          · simp [expect?]
          · rintro others same
            cases same
            cases closes
  | @cons group expr groups exprs reads _ ih =>
      have shape :
          moreTokens (group :: groups) = .symbol .comma :: (group ++ moreTokens groups) := rfl
      rw [shape] at enough ⊢
      simp only [List.length_cons, List.length_append] at enough
      cases steps with
      | zero => omega
      | succ steps =>
          have element : readElement steps _ = some (expr, _) :=
            reads.element (by omega) (stops_moreTokens closes groups rest)
          have others : readMoreElements steps closing _ = some (exprs, rest) := ih (by omega)
          obtain ⟨first, tail, rfl, begins⟩ := reads.begins
          rw [List.cons_append, List.append_assoc, readMoreElements]
          rw [List.cons_append] at element ⊢
          rw [expect?_of_begins begins closes]
          simp only [element, others, Option.bind_eq_bind, Option.bind_some]

/-! ### Displays -/

theorem readsAs_of_atom [Dialect] {first : Token} {tail : Tokens} (starts : startsAtom first = true)
    (unstarred : expr.isStarred = false)
    (read : ∀ {steps : Nat} {rest : Tokens}, 12 * (tail.length + 1) ≤ steps + 10 → Stops rest →
      readAtom (steps + 1) (first :: tail ++ rest) = some (expr, rest)) :
    ReadsAs (first :: tail) expr where
  begins := ⟨first, tail, rfl, .inl starts⟩
  unstarred := unstarred
  read := by
    intro steps rest enough stops
    rw [List.length_cons] at enough
    obtain ⟨steps, rfl⟩ : ∃ fewer, steps = fewer + 10 := ⟨steps - 10, by omega⟩
    exact readExpression_of_atom starts stops (read enough stops)

theorem startsClauses_stops (stops : Stops rest) : startsClauses rest = false := by
  cases stops with
  | _ => rfl

variable {groups : List Tokens} {exprs : List Expr}

theorem listed_cons_eq (group : Tokens) (groups : List Tokens) :
    Literal.listed (group :: groups) = group ++ moreTokens groups := by
  induction groups generalizing group with
  | nil => simp [Literal.listed, moreTokens]
  | cons second groups ih =>
      rw [Literal.listed_cons _ (by simp), ih second]
      simp [moreTokens]

theorem readsAs_list [Dialect] (each : List.Forall₂ ReadsAs groups exprs) :
    ReadsAs (.symbol .openBracket :: (Literal.listed groups ++ [.symbol .closeBracket]))
      (.list exprs) := by
  refine readsAs_of_atom rfl rfl ?_
  intro steps rest enough stops
  rw [List.cons_append, List.append_assoc, List.singleton_append]
  cases each with
  | nil => rw [Literal.listed, List.nil_append, readAtom]
  | @cons group expr groups exprs reads others =>
      rw [listed_cons_eq, List.append_assoc]
      rw [listed_cons_eq] at enough
      simp only [List.length_append, List.length_cons, List.length_nil] at enough
      have follows := stops_moreTokens .bracket groups rest
      have element : readElement steps _ = some (expr, _) := reads.element (by omega) follows
      have more : readMoreElements steps .closeBracket _ = some (exprs, rest) :=
        readMoreElements_moreTokens .bracket others (by omega) rest
      rw [readAtom]
      · rw [element]
        simp only [Option.bind_eq_bind, Option.bind_some, startsClauses_stops follows, more]
        rfl
      · obtain ⟨first, tail, rfl, begins⟩ := reads.begins
        rintro others same
        obtain ⟨rfl, -⟩ := List.cons.inj same
        simp [startsAtom] at begins

/-- Without the comma behind it a single element in parentheses would be no tuple. -/
theorem readsAs_tuple [Dialect] (each : List.Forall₂ ReadsAs groups exprs) :
    ReadsAs (.symbol .openParen :: (Literal.listed groups
      ++ (if groups.length = 1 then [.symbol .comma] else []) ++ [.symbol .closeParen]))
      (.tuple exprs) := by
  refine readsAs_of_atom rfl rfl ?_
  intro steps rest enough stops
  obtain ⟨steps, rfl⟩ : ∃ fewer, steps = fewer + 2 := by
    simp only [List.length_append, List.length_cons, List.length_nil] at enough
    exact ⟨steps - 2, by omega⟩
  rw [List.cons_append, List.append_assoc, List.append_assoc, List.singleton_append, readAtom]
  cases each with
  | nil => rw [Literal.listed, List.nil_append, if_neg (by simp), List.nil_append, readParenthesis]
  | @cons group expr groups exprs reads others =>
      rw [listed_cons_eq] at enough ⊢
      simp only [List.length_append, List.length_cons, List.length_nil] at enough
      obtain ⟨follow, follows, shape, more⟩ : ∃ follow, Stops (.symbol .comma :: follow) ∧
          moreTokens groups ++ ((if (group :: groups).length = 1 then [.symbol .comma] else [])
            ++ .symbol .closeParen :: rest) = .symbol .comma :: follow ∧
          readMoreElements (steps + 1) .closeParen (.symbol .comma :: follow) =
            some (exprs, rest) := by
        cases others with
        | nil =>
            refine ⟨.symbol .closeParen :: rest, .comma _, rfl, ?_⟩
            rw [readMoreElements]
            rfl
        | @cons second _ others _ readsSecond readsOthers =>
            refine ⟨second ++ (moreTokens others ++ .symbol .closeParen :: rest), .comma _, ?_, ?_⟩
            · simp [moreTokens]
            · have more : readMoreElements (steps + 1) .closeParen _ = some (_, rest) :=
                readMoreElements_moreTokens .paren (.cons readsSecond readsOthers) (by omega) rest
              simpa [moreTokens] using more
      rw [List.append_assoc, shape]
      have element : readElement (steps + 1) _ = some (expr, _) :=
        reads.element (by omega) follows
      rw [readParenthesis]
      · rw [element]
        simp only [Option.bind_eq_bind, Option.bind_some, startsClauses_stops follows, more]
        rfl
      all_goals
        obtain ⟨first, tail, rfl, begins⟩ := reads.begins
        rintro others same
        obtain ⟨rfl, -⟩ := List.cons.inj same
        simp [startsAtom, constantWord?] at begins

def entryTokens (group : Tokens × Tokens) : Tokens := group.1 ++ .symbol .colon :: group.2

def ReadsEntry [Dialect] (group : Tokens × Tokens) (entry : Expr × Expr) : Prop :=
  ReadsAs group.1 entry.1 ∧ ReadsAs group.2 entry.2

def entryExpr (entry : Expr × Expr) : Option Expr × Expr := (some entry.1, entry.2)

theorem moreTokens_entries (group : Tokens × Tokens) (groups : List (Tokens × Tokens)) :
    moreTokens ((group :: groups).map entryTokens) =
      .symbol .comma :: Literal.listed ((group :: groups).map entryTokens) := by
  rw [List.map_cons, listed_cons_eq]
  rfl

theorem readEntries_listed [Dialect] {groups : List (Tokens × Tokens)}
    {entries : List (Expr × Expr)} (each : List.Forall₂ ReadsEntry groups entries)
    (nonempty : groups ≠ [])
    (enough : 12 * (Literal.listed (groups.map entryTokens)).length < steps) (rest : Tokens) :
    readEntries steps (Literal.listed (groups.map entryTokens) ++ .symbol .closeBrace :: rest) =
      some (entries.map entryExpr, rest) := by
  induction each generalizing steps with
  | nil => exact absurd rfl nonempty
  | @cons group entry groups entries reads others ih =>
      obtain ⟨readsKey, readsValue⟩ := reads
      obtain ⟨steps, rfl⟩ : ∃ fewer, steps = fewer + 1 := ⟨steps - 1, by omega⟩
      rw [List.map_cons, listed_cons_eq] at enough ⊢
      simp only [entryTokens, List.length_append, List.length_cons] at enough
      have follows := stops_moreTokens .brace (groups.map entryTokens) rest
      have key : readExpression steps _ = some (entry.1, _) :=
        readsKey.read (by omega) (.colon (group.2
          ++ (moreTokens (groups.map entryTokens) ++ .symbol .closeBrace :: rest)))
      have content : readExpression steps _ = some (entry.2, _) :=
        readsValue.read (by omega) follows
      rw [entryTokens, List.append_assoc, List.append_assoc, List.cons_append, readEntries]
      · simp only [key, content, expect?, Option.bind_eq_bind, Option.bind_some, if_true]
        cases others with
        | nil => rfl
        | @cons second other groups entries readsSecond readsOthers =>
            rw [moreTokens_entries] at enough ⊢
            rw [List.length_cons] at enough
            have more : readEntries steps _ = some (_, rest) := ih (by simp) (by omega)
            rw [List.cons_append]
            simp only [more, Option.bind_some]
            rfl
      all_goals
        obtain ⟨first, tail, same, begins⟩ := readsKey.begins
        rw [same]
        rintro others same
        obtain ⟨rfl, -⟩ := List.cons.inj same
        simp [startsAtom] at begins

theorem readsAs_dict [Dialect] {groups : List (Tokens × Tokens)} {entries : List (Expr × Expr)}
    (each : List.Forall₂ ReadsEntry groups entries) :
    ReadsAs (.symbol .openBrace :: (Literal.listed (groups.map entryTokens)
      ++ [.symbol .closeBrace])) (.dict (entries.map entryExpr)) := by
  refine readsAs_of_atom rfl rfl ?_
  intro steps rest enough stops
  obtain ⟨steps, rfl⟩ : ∃ fewer, steps = fewer + 1 := by
    simp only [List.length_append, List.length_cons, List.length_nil] at enough
    exact ⟨steps - 1, by omega⟩
  rw [List.cons_append, List.append_assoc, List.singleton_append, readAtom]
  cases each with
  | nil => rw [List.map_nil, Literal.listed, List.nil_append, readBrace]; rfl
  | @cons group entry groups entries reads others =>
      obtain ⟨readsKey, readsValue⟩ := reads
      rw [List.map_cons, listed_cons_eq] at enough ⊢
      simp only [entryTokens, List.length_append, List.length_cons, List.length_nil] at enough
      have follows := stops_moreTokens .brace (groups.map entryTokens) rest
      have key : readElement steps _ = some (entry.1, _) :=
        readsKey.element (by omega) (.colon (group.2
          ++ (moreTokens (groups.map entryTokens) ++ .symbol .closeBrace :: rest)))
      have content : readExpression steps _ = some (entry.2, _) :=
        readsValue.read (by omega) follows
      obtain ⟨first, tail, same, begins⟩ := readsKey.begins
      have unnamed : ∀ after, startsNamed (group.1 ++ after) = false := by
        intro after
        rw [same]
        exact startsNamed_of_begins begins
      rw [entryTokens, List.append_assoc, List.append_assoc, List.cons_append, readBrace]
      · simp only [key, unnamed, readsKey.unstarred, content, startsClauses_stops follows,
          Option.bind_eq_bind, Option.bind_some, Bool.or_self, Bool.false_eq_true, if_false]
        cases others with
        | nil => rfl
        | @cons second other groups entries readsSecond readsOthers =>
            rw [moreTokens_entries] at enough ⊢
            rw [List.length_cons] at enough
            have more : readEntries steps _ = some (_, rest) :=
              readEntries_listed (.cons readsSecond readsOthers) (by simp) (by omega) rest
            rw [List.cons_append]
            simp only [more, Option.bind_some]
            rfl
      all_goals
        rw [same]
        rintro others same
        obtain ⟨rfl, -⟩ := List.cons.inj same
        simp [startsAtom] at begins

theorem readsAs_minus [Dialect] (number : Constant) :
    ReadsAs [.symbol .minus, .number number] (.unary .minus (.constant number)) where
  begins := ⟨_, _, rfl, .inr rfl⟩
  unstarred := rfl
  read := by
    intro steps rest enough stops
    simp only [List.length_cons, List.length_nil] at enough
    obtain ⟨steps, rfl⟩ : ∃ fewer, steps = fewer + 11 := ⟨steps - 11, by omega⟩
    have operand : readFactor (steps + 4) (.number number :: rest) =
        some (.constant number, rest) := by
      refine readFactor_of_atom rfl stops ?_
      rw [readAtom]
    refine readExpression_of_factor (by simp) (by simp) stops ?_
    rw [readFactor]
    simp [unarySign?, operand]

end Expr

namespace Literal

variable [Dialect]

/-- The tokens of a value are read as an expression that denotes the value and nests no deeper
than the value does, but for the sign of a number. -/
structure ReadBack (value : Value) (expr : Expr) : Prop where
  reads : Expr.ReadsAs (tokensOf value) expr
  denotes : ofExpr expr = .ok value
  depth_le : expr.depth ≤ value.nesting + 2

theorem readsAs_constant {token : Token} {constant : Constant}
    (starts : Expr.startsAtom token = true)
    (read : ∀ steps rest, Expr.Stops rest →
      Expr.readAtom (steps + 2) (token :: rest) = some (.constant constant, rest)) :
    Expr.ReadsAs [token] (.constant constant) := by
  refine Expr.readsAs_of_atom starts rfl ?_
  intro steps rest enough stops
  obtain ⟨steps, rfl⟩ : ∃ fewer, steps = fewer + 1 := by
    rw [List.length_nil] at enough
    exact ⟨steps - 1, by omega⟩
  exact read steps rest stops

theorem readBack_null : ReadBack .null (.constant .none) := by
  refine ⟨readsAs_constant rfl ?_, rfl, Nat.le_succ 1⟩
  intro steps rest _
  rw [Expr.readAtom]
  rfl

theorem readBack_bool (flag : Bool) : ReadBack (.bool flag) (.constant (.bool flag)) := by
  cases flag with
  | false =>
      refine ⟨readsAs_constant rfl ?_, rfl, Nat.le_succ 1⟩
      intro steps rest _
      rw [Expr.readAtom]
      rfl
  | true =>
      refine ⟨readsAs_constant rfl ?_, rfl, Nat.le_succ 1⟩
      intro steps rest _
      rw [Expr.readAtom]
      rfl

theorem exists_readBack_int (n : Int) : ∃ expr, ReadBack (.int n) expr := by
  by_cases negative : n < 0
  · refine ⟨.unary .minus (.constant (.int n.natAbs)), ?_, ?_, Nat.le_refl 2⟩
    · rw [tokensOf, if_pos negative]
      exact Expr.readsAs_minus _
    · have number : -Int.ofNat n.natAbs = n := by
        rw [Int.ofNat_eq_natCast]
        omega
      rw [ofExpr, signedNumber?, number?]
      exact congrArg (fun n => Except.ok (Value.int n)) number
  · refine ⟨.constant (.int n.natAbs), ?_, ?_, Nat.le_succ 1⟩
    · rw [tokensOf, if_neg negative]
      refine readsAs_constant rfl ?_
      intro steps rest _
      rw [Expr.readAtom]
    · have number : Int.ofNat n.natAbs = n := by
        rw [Int.ofNat_eq_natCast]
        omega
      exact congrArg (fun n => Except.ok (Value.int n)) number

theorem readBack_str (text : Text) : ReadBack (.str text) (.constant (.str text false)) :=
  ⟨readsAs_constant rfl fun _ _ stops => Expr.readAtom_quotationOf text stops, rfl,
    Nat.le_succ 1⟩

theorem exists_exprs {items : List Value} (each : ∀ item ∈ items, ∃ expr, ReadBack item expr) :
    ∃ exprs, List.Forall₂ Expr.ReadsAs (items.map tokensOf) exprs ∧ ofExprs exprs = .ok items ∧
      Expr.depthOfList exprs ≤ Value.nestingOfEach items + 2 := by
  induction items with
  | nil => exact ⟨[], .nil, rfl, Nat.zero_le _⟩
  | cons first rest ih =>
      rw [List.forall_mem_cons] at each
      obtain ⟨expr, first⟩ := each.1
      obtain ⟨exprs, others, denoteOthers, shallow⟩ := ih each.2
      refine ⟨expr :: exprs, .cons first.reads others, ?_, ?_⟩
      · rw [ofExprs, first.denotes, denoteOthers]
        rfl
      · rw [Expr.depthOfList, Value.nestingOfEach]
        have bound := first.depth_le
        omega

theorem exists_entries {members : List (Text × Value)}
    (each : ∀ member ∈ members, ∃ expr, ReadBack member.2 expr) :
    ∃ entries, List.Forall₂ Expr.ReadsEntry
        (members.map fun member => (tokensOf (.str member.1), tokensOf member.2)) entries ∧
      ofEntries (entries.map Expr.entryExpr) =
        .ok (members.map fun member => (.str member.1, member.2)) ∧
      Expr.depthOfEntries (entries.map Expr.entryExpr) ≤
        Value.nestingOfEntries (members.map fun member => (.str member.1, member.2)) + 2 := by
  induction members with
  | nil => exact ⟨[], .nil, rfl, Nat.zero_le _⟩
  | cons member rest ih =>
      rw [List.forall_mem_cons] at each
      have key := readBack_str member.1
      obtain ⟨expr, content⟩ := each.1
      obtain ⟨entries, others, denoteOthers, shallow⟩ := ih each.2
      refine ⟨(.constant (.str member.1 false), expr) :: entries,
        .cons ⟨key.reads, content.reads⟩ others, ?_, ?_⟩
      · rw [List.map_cons, Expr.entryExpr, ofEntries, key.denotes, content.denotes, denoteOthers]
        rfl
      · rw [List.map_cons, List.map_cons, Expr.entryExpr, Expr.depthOfEntries,
          Expr.depthOfOption, Value.nestingOfEntries]
        have keyBound := key.depth_le
        have bound := content.depth_le
        dsimp only
        omega

theorem exists_readBack_of_plain {value : Value} (plain : Value.Plain true value) :
    ∃ expr, ReadBack value expr := by
  induction plain with
  | null => exact ⟨_, readBack_null⟩
  | bool flag => exact ⟨_, readBack_bool flag⟩
  | int n _ => exact exists_readBack_int n
  | str text => exact ⟨_, readBack_str text⟩
  | list _ each =>
      obtain ⟨exprs, reads, denote, shallow⟩ := exists_exprs each
      refine ⟨.list exprs, ?_, ?_, Nat.succ_le_succ shallow⟩
      · rw [tokensOf_list]
        exact Expr.readsAs_list reads
      · rw [ofExpr, denote]
        rfl
  | @tuple items _ _ each =>
      obtain ⟨exprs, reads, denote, shallow⟩ := exists_exprs each
      refine ⟨.tuple exprs, ?_, ?_, Nat.succ_le_succ shallow⟩
      · rw [tokensOf_tuple]
        have tuple := Expr.readsAs_tuple reads
        rwa [List.length_map] at tuple
      · rw [ofExpr, denote]
        rfl
  | @dict members distinct _ each =>
      obtain ⟨entries, reads, denote, shallow⟩ := exists_entries each
      refine ⟨.dict (entries.map Expr.entryExpr), ?_, ?_, Nat.succ_le_succ shallow⟩
      · have dict := Expr.readsAs_dict reads
        rw [tokensOf_dict]
        rw [List.map_map] at dict ⊢
        exact dict
      · rw [ofExpr, denote, ← Value.ofEntries_of_distinct distinct]
        rfl

/-- A plain value written as a literal is read back as an expression. -/
theorem readExpression_write {value : Value} (plain : Value.Plain true value)
    (shallow : value.nesting ≤ Token.bracketLimit) :
    readExpression (write value) = .ok value := by
  obtain ⟨expr, back⟩ := exists_readBack_of_plain plain
  have scanned := scan_write plain shallow
  have surface := surface_write plain
  have read : Expr.read? (write value) = some expr := by
    have short := Token.length_le_of_scan scanned
    obtain ⟨steps, many⟩ : ∃ steps, 24 * ((write value).length + 2) = steps + 1 :=
      ⟨24 * ((write value).length + 2) - 1, by omega⟩
    have whole : Expr.readExpression steps (tokensOf value ++ []) = some (expr, []) :=
      back.reads.read (by omega) .nil
    rw [List.append_nil] at whole
    rw [Expr.read?, scanned, many]
    simp only [Option.bind_eq_bind, Option.bind_some, Expr.readExpressions, whole]
  have noNull : '\x00' ∉ write value := by
    intro member
    exact absurd (surface.shown _ member) (by decide)
  have readable : ¬ expr.depth > Expr.depthLimit := by
    have bound := back.depth_le
    rw [Token.bracketLimit] at shallow
    rw [Expr.depthLimit]
    omega
  rw [readExpression, if_neg (by simpa using noNull), surface.firm.trim_eq, read]
  exact (if_neg readable).trans back.denotes

end Literal

end CommentSchema
