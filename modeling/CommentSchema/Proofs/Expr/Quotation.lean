import CommentSchema.Expr.Parser
import CommentSchema.Proofs.Expr.Weight
import CommentSchema.Proofs.Text.Trimming
import CommentSchema.TypeExpr

/-! What an expression quotes is shorter than its text.  A reader gives back tokens that weigh
no more than those it was given, and whatever it has read quotes texts of a length below their
weight; so a type that is quoted in a type is always the shorter one. -/

namespace CommentSchema

open Std.Do Token

set_option mvcgen.warning false

namespace Escape

theorem decode?_triple [Dialect] (body : Text) :
    ⦃⌜True⌝⦄ decode? body ⦃⇓? points => ⌜points.length ≤ body.length⌝⦄ := by
  fun_induction decode? body with
  | case2 _ ih | case3 _ _ _ _ _ ih | case4 _ _ _ _ _ _ _ _ _ ih | case7 _ _ _ _ _ _ _ _ _ ih
    | case9 _ _ _ _ _ _ _ ih | case10 _ _ _ _ _ _ _ ih | case11 _ _ _ _ ih =>
      mvcgen [ih]
      all_goals grind [spanDigits_length_le, → length_add_three_le_of_named?]
  | _ => mvcgen

end Escape

namespace Expr

mutual
/-- The code points of each quotation that stands where an expression can hold types. -/
def strings : Expr → List (List CodePoint)
  | .constant (.str text _) => [text.map .char]
  | .constant (.torn content _) => [content.points]
  | .subscript _ index => index.strings
  | .tuple elements => stringsOfList elements
  | .binary .bitOr left right => left.strings ++ right.strings
  | _ => []
termination_by structural expr => expr

def stringsOfList : List Expr → List (List CodePoint)
  | [] => []
  | expr :: rest => expr.strings ++ stringsOfList rest
termination_by structural exprs => exprs
end

attribute [grind =] strings stringsOfList

theorem strings_quoted (marked : Bool) (points : List CodePoint) :
    (Expr.constant (.quoted marked points)).strings = [points] := by
  cases read : CodePoint.toText? points with
  | some text =>
      rw [Constant.quoted, CodePoint.either_of_text read, strings,
        CodePoint.eq_map_char_of_toText? read]
  | none => rw [Constant.quoted, CodePoint.either_of_torn read, strings]

theorem mem_strings_binary {op : BinaryOp} {left right : Expr} {points : List CodePoint}
    (member : points ∈ (Expr.binary op left right).strings) :
    points ∈ left.strings ∨ points ∈ right.strings := by
  cases op with
  | bitOr => exact List.mem_append.mp (by rwa [strings] at member)
  | _ => simp [strings] at member

theorem mem_strings_junctionOf {op : JunctionOp} {operands : List Expr} {points : List CodePoint}
    (member : points ∈ (junctionOf op operands).strings) : points ∈ stringsOfList operands := by
  match operands with
  | [single] => simpa [junctionOf, stringsOfList] using member
  | [] | _ :: _ :: _ => simp [junctionOf, strings] at member

attribute [grind →] mem_strings_binary mem_strings_junctionOf

theorem weigh_le_of_expect? {symbol : Symbol} {tokens rest : Tokens}
    (found : expect? symbol tokens = some rest) : weigh rest ≤ weigh tokens := by
  unfold expect? at found
  grind

theorem weigh_le_of_compareOp? {tokens rest : Tokens} {op : CompareOp}
    (found : compareOp? tokens = some (op, rest)) : weigh rest ≤ weigh tokens := by
  unfold compareOp? at found
  grind

attribute [grind →] weigh_le_of_expect? weigh_le_of_compareOp?

@[spec] theorem expect?_triple (symbol : Symbol) (tokens : Tokens) :
    ⦃⌜True⌝⦄ expect? symbol tokens ⦃⇓? rest => ⌜weigh rest ≤ weigh tokens⌝⦄ := by
  mvcgen [expect?]
  all_goals grind

/-! ### Quotations -/

@[grind =] theorem weigh_spanQuotations (tokens : Tokens) :
    weigh ((spanQuotations tokens).1.map .quotation) + weigh (spanQuotations tokens).2 =
      weigh tokens := by
  fun_induction spanQuotations tokens with
  | _ => grind

/-- No quotation is as long as the limit. -/
def Shorter (limit : Nat) (quotations : List (List CodePoint)) : Prop :=
  ∀ points ∈ quotations, points.length < limit

attribute [grind] Shorter

theorem shorter_number (value : Constant) :
    Shorter (weight (.number value)) (Expr.constant value).strings := by
  cases value with
  | str | torn => simp [Shorter, strings, weight]
  | _ => simp [Shorter, strings]

@[spec] theorem constantWord?_triple (word : Keyword) :
    ⦃⌜True⌝⦄ constantWord? word ⦃⇓? value => ⌜(Expr.constant value).strings = []⌝⦄ := by
  mvcgen [constantWord?]

theorem plainQuotation?_triple [Dialect] (quotation : Quotation) :
    ⦃⌜True⌝⦄ plainQuotation? quotation
    ⦃⇓? points => ⌜points.length ≤ quotation.body.length⌝⦄ := by
  have decode := Escape.decode?_triple
  mvcgen [plainQuotation?, decoded?, decode]
  simp

theorem length_flatten_le [Dialect] {quotations : List Quotation} {parts : List (List CodePoint)}
    (found : quotations.mapM plainQuotation? = some parts) :
    parts.flatten.length + quotations.length ≤ weigh (quotations.map .quotation) := by
  induction quotations generalizing parts with
  | nil =>
      cases found
      simp
  | cons quotation others ih =>
      simp only [List.mapM_cons, Option.pure_def, Option.bind_eq_bind, Option.bind_eq_some_iff,
        Option.some.injEq] at found
      obtain ⟨part, read, rest, readRest, rfl⟩ := found
      have first := of_triple (plainQuotation?_triple quotation) trivial read
      have others := ih readRest
      simp only [List.flatten_cons, List.length_append, List.length_cons, List.map_cons,
        weigh_cons, weight]
      omega

theorem shorter_readQuotations [Dialect] {steps : Nat} {quotations : List Quotation} {expr : Expr}
    (found : readQuotations steps quotations = some expr) :
    Shorter (weigh (quotations.map .quotation)) expr.strings := by
  rw [readQuotations.eq_def] at found
  cases steps with
  | zero => cases found
  | succ steps =>
      simp only at found
      split at found
      · obtain ⟨_, _, rfl⟩ := Option.map_eq_some_iff.mp found
        simp [strings, Shorter]
      · next some =>
          split at found
          · cases found
          · split at found
            · obtain ⟨_, _, rfl⟩ := Option.map_eq_some_iff.mp found
              simp [strings, Shorter]
            · obtain ⟨parts, read, rfl⟩ := Option.map_eq_some_iff.mp found
              have bound := length_flatten_le read
              have nonempty : 0 < quotations.length := by
                cases quotations with
                | nil => simp at some
                | cons => simp
              simp only [strings_quoted, Shorter, List.mem_singleton, forall_eq]
              omega

@[spec] theorem readQuotations_triple [Dialect] (steps : Nat) (quotations : List Quotation) :
    ⦃⌜True⌝⦄ readQuotations steps quotations
    ⦃⇓? expr => ⌜Shorter (weigh (quotations.map .quotation)) expr.strings⌝⦄ :=
  triple_iff.mpr fun _ _ => shorter_readQuotations

theorem none_triple {before : Prop} {holds : α → Prop} :
    (⦃⌜before⌝⦄ (none : Option α) ⦃⇓? value => ⌜holds value⌝⦄) ↔ True := by
  simp [triple_iff]

/-! ### Readers -/

/-- What is left after reading is within the limit where all that is given is. -/
def Leaves (limit : Nat) (rest : α → Tokens) (reader : Tokens → Option α) : Prop :=
  ∀ tokens, ⦃⌜weigh tokens ≤ limit⌝⦄ reader tokens ⦃⇓? found => ⌜weigh (rest found) ≤ limit⌝⦄

/-- What is read off tokens within the limit quotes texts of a length below it. -/
def Quotes (limit : Nat) (texts : α → List (List CodePoint))
    (reader : Tokens → Option (α × Tokens)) : Prop :=
  ∀ tokens, ⦃⌜weigh tokens ≤ limit⌝⦄ reader tokens
    ⦃⇓? found => ⌜weigh found.2 ≤ limit ∧ Shorter limit (texts found.1)⌝⦄

theorem Leaves.triple {limit : Nat} {rest : α → Tokens} {reader : Tokens → Option α}
    (leaves : Leaves limit rest reader) (tokens : Tokens) :
    ⦃⌜weigh tokens ≤ limit⌝⦄ reader tokens ⦃⇓? found => ⌜weigh (rest found) ≤ limit⌝⦄ :=
  leaves tokens

theorem Quotes.triple {limit : Nat} {texts : α → List (List CodePoint)}
    {reader : Tokens → Option (α × Tokens)} (quotes : Quotes limit texts reader)
    (tokens : Tokens) :
    ⦃⌜weigh tokens ≤ limit⌝⦄ reader tokens
    ⦃⇓? found => ⌜weigh found.2 ≤ limit ∧ Shorter limit (texts found.1)⌝⦄ :=
  quotes tokens

variable [Dialect]

/-- All readers keep to the limit, and what they read quotes nothing longer. -/
structure Bounded (limit steps : Nat) : Prop where
  expression : Quotes limit strings (readExpression steps)
  disjunction : Quotes limit strings (readDisjunction steps)
  disjuncts : Quotes limit stringsOfList (readDisjuncts steps)
  conjuncts : Quotes limit stringsOfList (readConjuncts steps)
  inversion : Quotes limit strings (readInversion steps)
  compared : Leaves limit (·.2) (readCompared steps)
  operators : ∀ level, Quotes limit strings (readOperators steps level)
  moreOperators : ∀ level left, Shorter limit left.strings →
    Quotes limit strings (readMoreOperators steps level left)
  factor : Quotes limit strings (readFactor steps)
  power : Quotes limit strings (readPower steps)
  primary : Quotes limit strings (readPrimary steps)
  trailers : ∀ base, Shorter limit base.strings → Quotes limit strings (readTrailers steps base)
  atom : Quotes limit strings (readAtom steps)
  parenthesis : Quotes limit strings (readParenthesis steps)
  brace : Quotes limit strings (readBrace steps)
  entries : Leaves limit (·.2) (readEntries steps)
  element : Quotes limit strings (readElement steps)
  named : Quotes limit strings (readNamed steps)
  moreElements : ∀ closing, Quotes limit stringsOfList (readMoreElements steps closing)
  slices : Quotes limit stringsOfList (readSlices steps)
  slice : Quotes limit strings (readSlice steps)
  bounds : ∀ lower, Quotes limit strings (readBounds steps lower)
  bound : Leaves limit (·.2) (readBound steps)
  arguments : ∀ stage first, Leaves limit (·.2.2) (readArguments steps stage first)
  moreArguments : ∀ stage, Leaves limit (·.2.2) (readMoreArguments steps stage)
  clauses : Leaves limit (·.2) (readClauses steps)
  targets : Leaves limit (·.2.2) (readTargets steps)
  conditions : Leaves limit (·.2) (readConditions steps)
  yielded : Quotes limit strings (readYield steps)
  starExpressions : Leaves limit (·.2) (readStarExpressions steps)
  moreExpressions : Leaves limit (·.2) (readMoreExpressions steps)
  starExpression : Leaves limit (·.2) (readStarExpression steps)
  parameters : ∀ state, Leaves limit (·.2) (readParameters steps state)
  moreParameters : ∀ state parameter, Leaves limit (·.2) (readMoreParameters steps state parameter)

variable {limit steps : Nat}

/-! A reader keeps to the limit with one step more where the readers that it calls do with the
steps left.  Taken apart along its calls, nothing remains but the weights of a few tokens. -/

theorem readExpression_quotes (ih : Bounded limit steps) :
    Quotes limit strings (readExpression (steps + 1)) := by
  intro tokens
  rw [readExpression.eq_def]
  have parameters := fun state => (ih.parameters state).triple
  have expression := ih.expression.triple
  have disjunction := ih.disjunction.triple
  mvcgen [parameters, expression, disjunction]
  all_goals grind

theorem readDisjunction_quotes (ih : Bounded limit steps) :
    Quotes limit strings (readDisjunction (steps + 1)) := by
  intro tokens
  rw [readDisjunction.eq_def]
  have disjuncts := ih.disjuncts.triple
  mvcgen [disjuncts]
  all_goals grind

theorem readDisjuncts_quotes (ih : Bounded limit steps) :
    Quotes limit stringsOfList (readDisjuncts (steps + 1)) := by
  intro tokens
  rw [readDisjuncts.eq_def]
  have conjuncts := ih.conjuncts.triple
  have disjuncts := ih.disjuncts.triple
  mvcgen [conjuncts, disjuncts]
  all_goals grind

theorem readConjuncts_quotes (ih : Bounded limit steps) :
    Quotes limit stringsOfList (readConjuncts (steps + 1)) := by
  intro tokens
  rw [readConjuncts.eq_def]
  have inversion := ih.inversion.triple
  have conjuncts := ih.conjuncts.triple
  mvcgen [inversion, conjuncts]
  all_goals grind

theorem readInversion_quotes (ih : Bounded limit steps) :
    Quotes limit strings (readInversion (steps + 1)) := by
  intro tokens
  rw [readInversion.eq_def]
  have inversion := ih.inversion.triple
  have operators := fun level => (ih.operators level).triple
  have compared := ih.compared.triple
  mvcgen [inversion, operators, compared]
  all_goals grind

theorem readCompared_leaves (ih : Bounded limit steps) :
    Leaves limit (·.2) (readCompared (steps + 1)) := by
  intro tokens
  rw [readCompared.eq_def]
  have operators := fun level => (ih.operators level).triple
  have compared := ih.compared.triple
  mvcgen [operators, compared]
  all_goals grind

theorem readOperators_quotes (ih : Bounded limit steps) :
    ∀ level, Quotes limit strings (readOperators (steps + 1) level) := by
  intro level tokens
  rw [readOperators.eq_def]
  have factor := ih.factor.triple
  have moreOperators := fun level left shorter => (ih.moreOperators level left shorter).triple
  mvcgen [factor, moreOperators]
  all_goals grind

theorem readMoreOperators_quotes (ih : Bounded limit steps) :
    ∀ level left, Shorter limit left.strings →
      Quotes limit strings (readMoreOperators (steps + 1) level left) := by
  intro level left shorter tokens
  rw [readMoreOperators.eq_def]
  have operators := fun level => (ih.operators level).triple
  have moreOperators := fun level left shorter => (ih.moreOperators level left shorter).triple
  mvcgen [operators, moreOperators]
  all_goals grind

theorem readFactor_quotes (ih : Bounded limit steps) :
    Quotes limit strings (readFactor (steps + 1)) := by
  intro tokens
  rw [readFactor.eq_def]
  have factor := ih.factor.triple
  have power := ih.power.triple
  mvcgen [factor, power]
  all_goals grind

theorem readPower_quotes (ih : Bounded limit steps) :
    Quotes limit strings (readPower (steps + 1)) := by
  intro tokens
  rw [readPower.eq_def]
  have primary := ih.primary.triple
  have factor := ih.factor.triple
  mvcgen [primary, factor]
  all_goals grind

theorem readPrimary_quotes (ih : Bounded limit steps) :
    Quotes limit strings (readPrimary (steps + 1)) := by
  intro tokens
  rw [readPrimary.eq_def]
  have atom := ih.atom.triple
  have trailers := fun base shorter => (ih.trailers base shorter).triple
  mvcgen [atom, trailers]
  all_goals grind

theorem readTrailers_quotes (ih : Bounded limit steps) :
    ∀ base, Shorter limit base.strings → Quotes limit strings (readTrailers (steps + 1) base) := by
  intro base shorter tokens
  rw [readTrailers.eq_def]
  have trailers := fun base shorter => (ih.trailers base shorter).triple
  have arguments := fun stage first => (ih.arguments stage first).triple
  have slice := ih.slice.triple
  have slices := ih.slices.triple
  mvcgen [trailers, arguments, slice, slices]
  all_goals grind

theorem readAtom_quotes (ih : Bounded limit steps) :
    Quotes limit strings (readAtom (steps + 1)) := by
  intro tokens
  rw [readAtom.eq_def]
  have parenthesis := ih.parenthesis.triple
  have element := ih.element.triple
  have clauses := ih.clauses.triple
  have moreElements := fun closing => (ih.moreElements closing).triple
  have brace := ih.brace.triple
  have spanned := weigh_spanQuotations tokens
  mvcgen [parenthesis, element, clauses, moreElements, brace]
  all_goals grind [shorter_number]

theorem readParenthesis_quotes (ih : Bounded limit steps) :
    Quotes limit strings (readParenthesis (steps + 1)) := by
  intro tokens
  rw [readParenthesis.eq_def]
  have yielded := ih.yielded.triple
  have element := ih.element.triple
  have clauses := ih.clauses.triple
  have moreElements := fun closing => (ih.moreElements closing).triple
  mvcgen [yielded, element, clauses, moreElements]
  all_goals grind

theorem readBrace_quotes (ih : Bounded limit steps) :
    Quotes limit strings (readBrace (steps + 1)) := by
  intro tokens
  rw [readBrace.eq_def]
  have entries := ih.entries.triple
  have element := ih.element.triple
  have expression := ih.expression.triple
  have clauses := ih.clauses.triple
  have moreElements := fun closing => (ih.moreElements closing).triple
  mvcgen [entries, element, expression, clauses, moreElements]
  all_goals grind

theorem readEntries_leaves (ih : Bounded limit steps) :
    Leaves limit (·.2) (readEntries (steps + 1)) := by
  intro tokens
  rw [readEntries.eq_def]
  have operators := fun level => (ih.operators level).triple
  have expression := ih.expression.triple
  have entries := ih.entries.triple
  mvcgen [operators, expression, entries]
  all_goals grind

theorem readElement_quotes (ih : Bounded limit steps) :
    Quotes limit strings (readElement (steps + 1)) := by
  intro tokens
  rw [readElement.eq_def]
  have operators := fun level => (ih.operators level).triple
  have named := ih.named.triple
  mvcgen [operators, named]
  all_goals grind

theorem readNamed_quotes (ih : Bounded limit steps) :
    Quotes limit strings (readNamed (steps + 1)) := by
  intro tokens
  rw [readNamed.eq_def]
  have expression := ih.expression.triple
  mvcgen [expression]
  all_goals grind

theorem readMoreElements_quotes (ih : Bounded limit steps) :
    ∀ closing, Quotes limit stringsOfList (readMoreElements (steps + 1) closing) := by
  intro closing tokens
  rw [readMoreElements.eq_def]
  have element := ih.element.triple
  have moreElements := fun closing => (ih.moreElements closing).triple
  mvcgen [element, moreElements]
  all_goals grind

theorem readSlices_quotes (ih : Bounded limit steps) :
    Quotes limit stringsOfList (readSlices (steps + 1)) := by
  intro tokens
  rw [readSlices.eq_def]
  have slice := ih.slice.triple
  have slices := ih.slices.triple
  mvcgen [slice, slices]
  all_goals grind

theorem readSlice_quotes (ih : Bounded limit steps) :
    Quotes limit strings (readSlice (steps + 1)) := by
  intro tokens
  rw [readSlice.eq_def]
  have expression := ih.expression.triple
  have bounds := fun lower => (ih.bounds lower).triple
  have named := ih.named.triple
  mvcgen [expression, bounds, named]
  all_goals grind

theorem readBounds_quotes (ih : Bounded limit steps) :
    ∀ lower, Quotes limit strings (readBounds (steps + 1) lower) := by
  intro lower tokens
  rw [readBounds.eq_def]
  have bound := ih.bound.triple
  mvcgen [bound]
  all_goals grind

theorem readBound_leaves (ih : Bounded limit steps) :
    Leaves limit (·.2) (readBound (steps + 1)) := by
  intro tokens
  rw [readBound.eq_def]
  have expression := ih.expression.triple
  mvcgen [expression]
  all_goals grind

theorem readArguments_leaves (ih : Bounded limit steps) :
    ∀ stage first, Leaves limit (·.2.2) (readArguments (steps + 1) stage first) := by
  intro stage first tokens
  rw [readArguments.eq_def]
  have expression := ih.expression.triple
  have moreArguments := fun stage => (ih.moreArguments stage).triple
  have named := ih.named.triple
  have clauses := ih.clauses.triple
  mvcgen [expression, moreArguments, named, clauses]
  all_goals grind

theorem readMoreArguments_leaves (ih : Bounded limit steps) :
    ∀ stage, Leaves limit (·.2.2) (readMoreArguments (steps + 1) stage) := by
  intro stage tokens
  rw [readMoreArguments.eq_def]
  have arguments := fun stage first => (ih.arguments stage first).triple
  mvcgen [arguments]
  all_goals grind

theorem readClauses_leaves (ih : Bounded limit steps) :
    Leaves limit (·.2) (readClauses (steps + 1)) := by
  intro tokens
  rw [readClauses.eq_def]
  have targets := ih.targets.triple
  have disjunction := ih.disjunction.triple
  have conditions := ih.conditions.triple
  have clauses := ih.clauses.triple
  mvcgen [targets, disjunction, conditions, clauses]
  all_goals grind

theorem readTargets_leaves (ih : Bounded limit steps) :
    Leaves limit (·.2.2) (readTargets (steps + 1)) := by
  intro tokens
  rw [readTargets.eq_def]
  have primary := ih.primary.triple
  have targets := ih.targets.triple
  mvcgen [primary, targets]
  all_goals grind

theorem readConditions_leaves (ih : Bounded limit steps) :
    Leaves limit (·.2) (readConditions (steps + 1)) := by
  intro tokens
  rw [readConditions.eq_def]
  have disjunction := ih.disjunction.triple
  have conditions := ih.conditions.triple
  mvcgen [disjunction, conditions]
  all_goals grind

theorem readYield_quotes (ih : Bounded limit steps) :
    Quotes limit strings (readYield (steps + 1)) := by
  intro tokens
  rw [readYield.eq_def]
  have expression := ih.expression.triple
  have starExpressions := ih.starExpressions.triple
  mvcgen [expression, starExpressions]
  all_goals grind

theorem readStarExpressions_leaves (ih : Bounded limit steps) :
    Leaves limit (·.2) (readStarExpressions (steps + 1)) := by
  intro tokens
  rw [readStarExpressions.eq_def]
  have starExpression := ih.starExpression.triple
  have moreExpressions := ih.moreExpressions.triple
  mvcgen [starExpression, moreExpressions]
  all_goals grind

theorem readMoreExpressions_leaves (ih : Bounded limit steps) :
    Leaves limit (·.2) (readMoreExpressions (steps + 1)) := by
  intro tokens
  rw [readMoreExpressions.eq_def]
  have starExpression := ih.starExpression.triple
  have moreExpressions := ih.moreExpressions.triple
  mvcgen [starExpression, moreExpressions]
  all_goals grind

theorem readStarExpression_leaves (ih : Bounded limit steps) :
    Leaves limit (·.2) (readStarExpression (steps + 1)) := by
  intro tokens
  rw [readStarExpression.eq_def]
  have operators := fun level => (ih.operators level).triple
  have expression := ih.expression.triple
  mvcgen [operators, expression]
  all_goals grind

theorem readParameters_leaves (ih : Bounded limit steps) :
    ∀ state, Leaves limit (·.2) (readParameters (steps + 1) state) := by
  intro state tokens
  rw [readParameters.eq_def]
  have expression := ih.expression.triple
  have moreParameters := fun state parameter => (ih.moreParameters state parameter).triple
  mvcgen [expression, moreParameters]
  all_goals grind

theorem readMoreParameters_leaves (ih : Bounded limit steps) :
    ∀ state parameter, Leaves limit (·.2) (readMoreParameters (steps + 1) state parameter) := by
  intro state parameter tokens
  rw [readMoreParameters.eq_def]
  have parameters := fun state => (ih.parameters state).triple
  mvcgen [parameters]
  all_goals grind

/-- However many steps there are, all readers keep to the limit. -/
theorem bounded (limit steps : Nat) : Bounded limit steps := by
  induction steps with
  | zero =>
      constructor
      all_goals
      intros
      simp only [Leaves, Quotes, none_triple, implies_true, readExpression, readDisjunction,
        readDisjuncts, readConjuncts, readInversion, readCompared, readOperators,
        readMoreOperators, readFactor, readPower, readPrimary, readTrailers, readAtom,
        readParenthesis, readBrace, readEntries, readElement, readNamed, readMoreElements,
        readSlices, readSlice, readBounds, readBound, readArguments, readMoreArguments,
        readClauses, readTargets, readConditions, readYield, readStarExpressions,
        readMoreExpressions, readStarExpression, readParameters, readMoreParameters]
  | succ steps ih =>
      exact {
        expression := readExpression_quotes ih
        disjunction := readDisjunction_quotes ih
        disjuncts := readDisjuncts_quotes ih
        conjuncts := readConjuncts_quotes ih
        inversion := readInversion_quotes ih
        compared := readCompared_leaves ih
        operators := readOperators_quotes ih
        moreOperators := readMoreOperators_quotes ih
        factor := readFactor_quotes ih
        power := readPower_quotes ih
        primary := readPrimary_quotes ih
        trailers := readTrailers_quotes ih
        atom := readAtom_quotes ih
        parenthesis := readParenthesis_quotes ih
        brace := readBrace_quotes ih
        entries := readEntries_leaves ih
        element := readElement_quotes ih
        named := readNamed_quotes ih
        moreElements := readMoreElements_quotes ih
        slices := readSlices_quotes ih
        slice := readSlice_quotes ih
        bounds := readBounds_quotes ih
        bound := readBound_leaves ih
        arguments := readArguments_leaves ih
        moreArguments := readMoreArguments_leaves ih
        clauses := readClauses_leaves ih
        targets := readTargets_leaves ih
        conditions := readConditions_leaves ih
        yielded := readYield_quotes ih
        starExpressions := readStarExpressions_leaves ih
        moreExpressions := readMoreExpressions_leaves ih
        starExpression := readStarExpression_leaves ih
        parameters := readParameters_leaves ih
        moreParameters := readMoreParameters_leaves ih }

theorem readExpressions_quotes (limit steps : Nat) (tokens : Tokens) :
    ⦃⌜weigh tokens ≤ limit⌝⦄ readExpressions steps tokens
    ⦃⇓? found => ⌜Shorter limit (stringsOfList found.1)⌝⦄ := by
  induction steps generalizing tokens with
  | zero => mvcgen [readExpressions]
  | succ steps ih =>
      rw [readExpressions.eq_def]
      have expression := (bounded limit steps).expression.triple
      mvcgen [expression, ih]
      all_goals grind

/-- A text that is quoted in another one has its two marks around it. -/
theorem shorter_read? {text : Text} {expr : Expr} (found : read? text = some expr) :
    Shorter (text.length - 1) expr.strings := by
  simp only [read?, Option.bind_eq_bind, Option.bind_eq_some_iff] at found
  obtain ⟨tokens, scanned, ⟨exprs, several, rest⟩, read, found⟩ := found
  have weighed := weigh_of_scan scanned
  have shorter := of_triple (readExpressions_quotes (weigh tokens) _ tokens) (Nat.le_refl _) read
  grind

end Expr

theorem TypeExpr.shorter_parse [Dialect] {text : Text} {expr : Expr}
    (parsed : parse text = .ok expr) :
    Expr.Shorter (text.length - 1) expr.strings := by
  rcases parse_cases text with ⟨problem, refused⟩ | ⟨-, refused⟩ | ⟨found, read, same⟩
  · rw [refused] at parsed
    cases parsed
  · rw [refused] at parsed
    cases parsed
  · rw [same] at parsed
    cases parsed
    have shorter := Expr.shorter_read? read
    have trimmed := (Text.trim_isInfix text).length_le
    intro points member
    have less := shorter points member
    omega

end CommentSchema
