import CommentSchema.Text.Normal.Canonical
import CommentSchema.Text.Normal.Compatible
import CommentSchema.Text.Normal.Marks

/-! The compatible normal form of words (Unicode 14, form KC): characters are decomposed,
the marks on each base are put in order, and bases are composed with their marks again. -/

namespace CommentSchema.Text.Normal

private def syllables : Nat := 0xac00

private def leads : Nat := 0x1100

private def vowels : Nat := 0x1161

private def tails : Nat := 0x11a7

private def vowelCount : Nat := 21

private def tailCount : Nat := 28

private def isSyllable (n : Nat) : Bool :=
  syllables ≤ n && n < syllables + 19 * vowelCount * tailCount

/-- The two or three letters of a Hangul syllable. -/
private def lettersOf (n : Nat) : List Nat :=
  let index := n - syllables
  let tail := index % tailCount
  let block := index / tailCount
  let syllable := [leads + block / vowelCount, vowels + block % vowelCount]
  if tail = 0 then syllable else syllable ++ [tails + tail]

def compatible? (n : Nat) : Option (List Nat) :=
  match shifts.find? fun (first, last, _) => first ≤ n && n ≤ last with
  | some (first, _, image) => some [image + (n - first)]
  | none =>
      match images.find? fun (first, found) => first ≤ n && n < first + found.length with
      | some (first, found) => (found[n - first]?).map fun image => [image]
      | none => sequences.lookup n

/-- Composed characters are taken apart at most `depth` times. -/
def decompose (depth n : Nat) : List Nat :=
  match depth with
  | 0 => [n]
  | depth + 1 =>
      if n < 0x80 then [n]
      else if isSyllable n then lettersOf n
      else
        match compositions.lookup n with
        | some (first, second) => decompose depth first ++ decompose depth second
        | none => (compatible? n).getD [n]

private theorem mem_lettersOf {n m : Nat} (whole : isSyllable n) (member : m ∈ lettersOf n) :
    0x1100 ≤ m ∧ m < 0x1200 := by
  unfold isSyllable syllables vowelCount tailCount at whole
  unfold lettersOf syllables leads vowels tails vowelCount tailCount at member
  rw [Bool.and_eq_true, decide_eq_true_eq, decide_eq_true_eq] at whole
  dsimp only at member
  split at member
  · simp only [List.mem_cons, List.not_mem_nil, or_false] at member
    omega
  · simp only [List.cons_append, List.nil_append, List.mem_cons, List.not_mem_nil, or_false]
      at member
    omega

/-- What holds of Hangul letters, of the two parts of any composed character and of what any
character stands for holds of all that a character is taken apart into. -/
theorem forall_decompose {holds : Nat → Prop} (letter : ∀ n, 0x1100 ≤ n → n < 0x1200 → holds n)
    (composed : ∀ entry ∈ compositions, holds entry.2.1 ∧ holds entry.2.2)
    (stands : ∀ n found, compatible? n = some found → ∀ m ∈ found, holds m) {depth n : Nat}
    (whole : holds n) : ∀ m ∈ decompose depth n, holds m := by
  induction depth generalizing n with
  | zero => simpa [decompose] using whole
  | succ depth ih =>
      intro m member
      unfold decompose at member
      split at member
      · simpa [List.mem_singleton.mp member] using whole
      · split at member
        · next syllable =>
            obtain ⟨low, high⟩ := mem_lettersOf syllable member
            exact letter m low high
        · split at member
          · next first second found =>
              obtain ⟨before, after, same, -⟩ := List.lookup_eq_some_iff.mp found
              obtain ⟨one, other⟩ := composed (n, first, second) (by simp [same])
              rcases List.mem_append.mp member with inFirst | inSecond
              · exact ih one m inFirst
              · exact ih other m inSecond
          · cases found : compatible? n with
            | none =>
                rw [found] at member
                simpa [List.mem_singleton.mp member] using whole
            | some codes =>
                rw [found] at member
                exact stands n codes found m member

def markClass (n : Nat) : Nat :=
  match markClasses.find? fun (first, last, _) => first ≤ n && n ≤ last with
  | some (_, _, value) => value
  | none => 0

/-- Put a mark behind the marks of lower classes. -/
def insertMark (n : Nat) : List Nat → List Nat
  | [] => [n]
  | m :: rest =>
      if markClass m != 0 && markClass m < markClass n then m :: insertMark n rest
      else n :: m :: rest

def orderMarks (codes : List Nat) : List Nat :=
  codes.foldr (fun n rest => if markClass n = 0 then n :: rest else insertMark n rest) []

def composed? (first second : Nat) : Option Nat :=
  if leads ≤ first && first < leads + 19 && vowels ≤ second && second < vowels + vowelCount then
    some (syllables + ((first - leads) * vowelCount + (second - vowels)) * tailCount)
  else if isSyllable first && (first - syllables) % tailCount = 0 && tails < second
      && second < tails + tailCount then
    some (first + (second - tails))
  else (compositions.find? fun (_, a, b) => a == first && b == second).map (·.1)

/-- What holds of Hangul syllables and of every composed character holds of what two characters
are composed into. -/
theorem forall_composed? {holds : Nat → Prop}
    (syllable : ∀ n, 0xac00 ≤ n → n < 0xd7a4 → holds n)
    (composed : ∀ entry ∈ compositions, holds entry.1) {first second n : Nat}
    (found : composed? first second = some n) : holds n := by
  unfold composed? isSyllable syllables leads vowels tails vowelCount tailCount at found
  simp only [Bool.and_eq_true, decide_eq_true_eq] at found
  split at found
  · next letters =>
      rw [← Option.some.inj found]
      exact syllable _ (by omega) (by omega)
  · split at found
    · next letters =>
        rw [← Option.some.inj found]
        exact syllable _ (by omega) (by omega)
    · obtain ⟨entry, same, rfl⟩ := Option.map_eq_some_iff.mp found
      exact composed entry (List.mem_of_find?_eq_some same)

/-- Compose a base with what follows; `marks` are those that stay behind it, last one first. -/
def compose (base : Nat) (marks : List Nat) : List Nat → List Nat
  | [] => base :: marks.reverse
  | n :: rest =>
      let blocked := marks.head?.any fun mark => markClass n ≤ markClass mark
      match if blocked then none else composed? base n with
      | some composed => compose composed marks rest
      | none =>
          if markClass n = 0 then base :: marks.reverse ++ compose n [] rest
          else compose base (n :: marks) rest

def composeAll : List Nat → List Nat
  | [] => []
  | n :: rest => if markClass n = 0 then compose n [] rest else n :: composeAll rest

/-- The normal form of a word; a word in ASCII is its own. -/
def normalize (word : Text) : Text :=
  if word.all (·.toNat < 0x80) then word
  else
    let codes := word.flatMap fun c => decompose 8 c.toNat
    (composeAll (orderMarks codes)).map Char.ofNat

end CommentSchema.Text.Normal
