/-! Text is a list of characters.  Readers consume it from the front, so every
reader and writer is a function on the list itself. -/

namespace CommentSchema

abbrev Text := List Char

namespace Text

/-- The pieces between the separators; there is always at least one. -/
def split (separator : Char) : Text → List Text
  | [] => [[]]
  | c :: rest =>
      if c = separator then [] :: split separator rest
      else
        match split separator rest with
        | [] => [[c]]
        | piece :: pieces => (c :: piece) :: pieces

@[simp] theorem split_nil (separator : Char) : split separator [] = [[]] := rfl

theorem split_ne_nil (separator : Char) (text : Text) : split separator text ≠ [] := by
  cases text with
  | nil => simp
  | cons c rest =>
      rw [split]
      split
      · simp
      · split <;> simp

theorem split_of_not_mem {separator : Char} {text : Text} (absent : separator ∉ text) :
    split separator text = [text] := by
  induction text with
  | nil => rfl
  | cons c rest ih =>
      simp only [List.mem_cons, not_or] at absent
      rw [split, if_neg (Ne.symm absent.1), ih absent.2]

def lines (text : Text) : List Text := text.split '\n'

def join (separator : Text) : List Text → Text
  | [] => []
  | [piece] => piece
  | piece :: pieces => piece ++ separator ++ join separator pieces

@[simp] theorem join_nil (separator : Text) : join separator [] = [] := rfl

@[simp] theorem join_singleton (separator piece : Text) : join separator [piece] = piece := rfl

theorem join_cons (separator piece : Text) {pieces : List Text} (h : pieces ≠ []) :
    join separator (piece :: pieces) = piece ++ separator ++ join separator pieces := by
  cases pieces with
  | nil => exact absurd rfl h
  | cons => rfl

theorem join_split (separator : Char) (text : Text) :
    join [separator] (split separator text) = text := by
  induction text with
  | nil => rfl
  | cons c rest ih =>
      rw [split]
      split
      · next h =>
          rw [join_cons _ _ (split_ne_nil separator rest), ih]
          simp [h]
      · split
        · next h => exact absurd h (split_ne_nil separator rest)
        · next piece pieces h =>
            rw [h] at ih
            cases pieces with
            | nil => simpa using ih
            | cons => simpa [join] using ih

theorem split_append_cons {separator : Char} {piece : Text} (absent : separator ∉ piece)
    (rest : Text) :
    split separator (piece ++ separator :: rest) = piece :: split separator rest := by
  induction piece with
  | nil => simp [split]
  | cons c piece ih =>
      simp only [List.mem_cons, not_or] at absent
      rw [List.cons_append, split, if_neg (Ne.symm absent.1), ih absent.2]

/-- Pieces without the separator are found again when they have been joined. -/
theorem split_join {separator : Char} {pieces : List Text} (nonempty : pieces ≠ [])
    (absent : ∀ piece ∈ pieces, separator ∉ piece) :
    split separator (join [separator] pieces) = pieces := by
  induction pieces with
  | nil => exact absurd rfl nonempty
  | cons piece rest ih =>
      rw [List.forall_mem_cons] at absent
      cases rest with
      | nil => exact split_of_not_mem absent.1
      | cons second others =>
          rw [join_cons _ _ (by simp), List.append_assoc, List.singleton_append,
            split_append_cons absent.1, ih (by simp) absent.2]

/-- Every way to end a line becomes one line feed. -/
def normalizeLines : Text → Text
  | [] => []
  | '\r' :: '\n' :: rest => '\n' :: normalizeLines rest
  | '\r' :: rest => '\n' :: normalizeLines rest
  | c :: rest => c :: normalizeLines rest

def unlines (lines : List Text) : Text := join ['\n'] lines

theorem unlines_lines (text : Text) : unlines (lines text) = text := join_split '\n' text

theorem lines_unlines {pieces : List Text} (nonempty : pieces ≠ [])
    (absent : ∀ piece ∈ pieces, '\n' ∉ piece) : lines (unlines pieces) = pieces :=
  split_join nonempty absent

private def substituteFrom (word replacement : Text) : Nat → Text → Text
  | _, [] => []
  | skip + 1, _ :: rest => substituteFrom word replacement skip rest
  | 0, c :: rest =>
      if word.isPrefixOf (c :: rest) then
        replacement ++ substituteFrom word replacement (word.length - 1) rest
      else c :: substituteFrom word replacement 0 rest

/-- Every occurrence of a nonempty `word`, found from the left and never overlapping,
gives way to `replacement`. -/
def substitute (word replacement text : Text) : Text := substituteFrom word replacement 0 text

theorem substitute_of_not_infix {word text : Text} (replacement : Text)
    (absent : ¬ word <:+: text) : substitute word replacement text = text := by
  unfold substitute
  induction text with
  | nil => rfl
  | cons c rest ih =>
      rw [List.infix_cons_iff, not_or] at absent
      have here : word.isPrefixOf (c :: rest) = false := by
        simpa [← List.isPrefixOf_iff_prefix] using absent.1
      simp only [substituteFrom, here, Bool.false_eq_true, if_false, ih absent.2]

theorem substitute_singleton (c d : Char) (text : Text) :
    substitute [c] [d] text = text.map fun e => if e = c then d else e := by
  unfold substitute
  induction text with
  | nil => rfl
  | cons e rest ih =>
      by_cases same : e = c
      · simp [substituteFrom, same, ih]
      · simp [substituteFrom, same, Ne.symm same, ih]

def erase (word text : Text) : Text := substitute word [] text

theorem erase_of_not_infix {word text : Text} (absent : ¬ word <:+: text) :
    erase word text = text := substitute_of_not_infix [] absent

private theorem substituteFrom_skip (word replacement : Text) (skip : Nat) (text : Text) :
    substituteFrom word replacement skip text =
      substituteFrom word replacement 0 (text.drop skip) := by
  induction text generalizing skip with
  | nil => cases skip <;> simp [substituteFrom]
  | cons c rest ih =>
      cases skip with
      | zero => rfl
      | succ skip => rw [substituteFrom, ih, List.drop_succ_cons]

@[simp] theorem erase_nil (word : Text) : erase word [] = [] := rfl

theorem erase_append {word : Text} (nonempty : word ≠ []) (rest : Text) :
    erase word (word ++ rest) = erase word rest := by
  cases word with
  | nil => exact absurd rfl nonempty
  | cons c word =>
      have found : (c :: word).isPrefixOf (c :: (word ++ rest)) = true :=
        List.isPrefixOf_iff_prefix.mpr (List.prefix_append (c :: word) rest)
      have skipped := substituteFrom_skip (c :: word) [] word.length (word ++ rest)
      rw [List.drop_left] at skipped
      simpa [erase, substitute, substituteFrom, found] using skipped

theorem erase_cons_of_absent {word rest : Text} {c : Char} (absent : ¬ word <+: c :: rest) :
    erase word (c :: rest) = c :: erase word rest := by
  have here : word.isPrefixOf (c :: rest) = false := by
    simpa [← List.isPrefixOf_iff_prefix] using absent
  simp [erase, substitute, substituteFrom, here]

/-- What stands before and after the first occurrence of a nonempty `word`. -/
def splitFirst? (word : Text) : Text → Option (Text × Text)
  | [] => none
  | c :: rest =>
      match word.isPrefixOf? (c :: rest) with
      | some after => some ([], after)
      | none => (splitFirst? word rest).map fun (before, after) => (c :: before, after)

/-- What stands before and after the last occurrence of a nonempty `word`. -/
def splitLast? (word : Text) : Text → Option (Text × Text)
  | [] => none
  | c :: rest =>
      match splitLast? word rest with
      | some (before, after) => some (c :: before, after)
      | none => (word.isPrefixOf? (c :: rest)).map fun after => ([], after)

def mentions (text word : Text) : Bool := word.isEmpty || (splitFirst? word text).isSome

def endsWith (text tail : Text) : Bool := tail.isSuffixOf text

def ofNat (n : Nat) : Text := (Nat.repr n).toList

end Text

end CommentSchema
