import CommentSchema.Text.Basic

/-! Patterns.  A pattern offers what it can take from the front of a text, and it offers first
what it prefers: the first alternative before the second one, more repetitions before fewer.  A
search takes the first offer at the first place that has one. -/

namespace CommentSchema

/-- What is taken from the front of a text, the groups that have been filled on the way, the
latest first, and what is left. -/
structure Match where
  taken : Text
  groups : List (Nat × Text)
  rest : Text

namespace Match

def nothing (text : Text) : Match := ⟨[], [], text⟩

def append (first second : Match) : Match :=
  ⟨first.taken ++ second.taken, second.groups ++ first.groups, second.rest⟩

def inGroup (number : Nat) (found : Match) : Match :=
  { found with groups := (number, found.taken) :: found.groups }

def group? (found : Match) (number : Nat) : Option Text := found.groups.lookup number

/-- Whether a line begins behind the match, given whether one begins in front of it. -/
def startsLine (found : Match) (fresh : Bool) : Bool :=
  (found.taken.getLast?.map (· == '\n')).getD fresh

end Match

inductive Pattern where
  | lineStart
  | lineEnd
  | one (fits : Char → Bool)
  | word (text : Text)
  | both (first second : Pattern)
  | either (first second : Pattern)
  | many (inner : Pattern)
  | group (number : Nat) (inner : Pattern)

namespace Pattern

/-- Offers repeated, as long as each of them takes something. -/
def repeated (offers : Bool → Text → List Match) : Nat → Bool → Text → List Match
  | 0, _, text => [.nothing text]
  | steps + 1, fresh, text =>
      (((offers fresh text).filter (!·.taken.isEmpty)).flatMap fun first =>
        (repeated offers steps (first.startsLine fresh) first.rest).map first.append) ++
          [.nothing text]

/-- What a pattern offers in front of a text, in the order of its preference; `fresh` says
whether a line begins there. -/
def offers : Pattern → Bool → Text → List Match
  | lineStart, fresh, text => if fresh then [.nothing text] else []
  | lineEnd, _, text => if text.head?.all (· == '\n') then [.nothing text] else []
  | one _, _, [] => []
  | one fits, _, c :: rest => if fits c then [⟨[c], [], rest⟩] else []
  | word taken, _, text => (taken.isPrefixOf? text).toList.map (⟨taken, [], ·⟩)
  | both first second, fresh, text =>
      (first.offers fresh text).flatMap fun found =>
        (second.offers (found.startsLine fresh) found.rest).map found.append
  | either first second, fresh, text => first.offers fresh text ++ second.offers fresh text
  | many inner, fresh, text => repeated inner.offers text.length fresh text
  | group number inner, fresh, text => (inner.offers fresh text).map (.inGroup number)

attribute [grind =] repeated offers

def first? (pattern : Pattern) (fresh : Bool) (text : Text) : Option Match :=
  (pattern.offers fresh text).head?

def optional (inner : Pattern) : Pattern := either inner (word [])

def several (inner : Pattern) : Pattern := both inner (many inner)

def searchFrom (pattern : Pattern) : Bool → Text → Option Match
  | fresh, [] => pattern.first? fresh []
  | fresh, c :: rest =>
      (pattern.first? fresh (c :: rest)).or (searchFrom pattern (c == '\n') rest)

def search (pattern : Pattern) (text : Text) : Option Match := pattern.searchFrom true text

/-- A text as the characters and the matches that it consists of.  The matches are found from
the left and never overlap; those that take nothing are passed over. -/
def piecesFrom (pattern : Pattern) (fresh : Bool) : Text → List (Char ⊕ Match)
  | [] => []
  | c :: rest =>
      match pattern.first? fresh (c :: rest) with
      | some found =>
          if found.rest.length ≤ rest.length then
            .inr found :: piecesFrom pattern (found.startsLine fresh) found.rest
          else .inl c :: piecesFrom pattern (c == '\n') rest
      | none => .inl c :: piecesFrom pattern (c == '\n') rest
termination_by text => text.length

def pieces (pattern : Pattern) (text : Text) : List (Char ⊕ Match) := pattern.piecesFrom true text

/-- What the matches leave of a text. -/
def erase (pattern : Pattern) (text : Text) : Text :=
  (pattern.pieces text).filterMap Sum.getLeft?

def findAll (pattern : Pattern) (text : Text) : List Match :=
  (pattern.pieces text).filterMap Sum.getRight?

end Pattern

end CommentSchema
