import CommentSchema.Text.Basic
import Mathlib.Data.List.Infix

/-! Where a word occurs in a text, and where it cannot.  A word is kept out of a text that is
put together from variable pieces and fixed ones when no piece holds it and no occurrence can
begin in a fixed piece or run into one. -/

namespace CommentSchema.Text

theorem isPrefixOf?_append (word after : Text) : word.isPrefixOf? (word ++ after) = some after :=
  List.isPrefixOf?_eq_some_iff_append_eq.mpr rfl

theorem isPrefixOf?_eq_none {word text : Text} (absent : ¬ word <+: text) :
    word.isPrefixOf? text = none := by
  cases found : word.isPrefixOf? text with
  | none => rfl
  | some after => exact absurd ⟨after, List.isPrefixOf?_eq_some_iff_append_eq.mp found⟩ absent

/-- Two texts differ at a place that both have. -/
def clash (left right : Text) : Bool := !left.isPrefixOf right && !right.isPrefixOf left

theorem clash_eq_false {left right text : Text} (leftPrefix : left <+: text)
    (rightPrefix : right <+: text) : clash left right = false := by
  unfold clash
  rcases List.prefix_or_prefix_of_prefix leftPrefix rightPrefix with found | found
  · simp [List.isPrefixOf_iff_prefix.mpr found]
  · simp [List.isPrefixOf_iff_prefix.mpr found]

/-- No occurrence of the word begins in the text, whatever follows it. -/
def neverBegins (word : Text) : Text → Bool
  | [] => true
  | c :: rest => clash (c :: rest) word && neverBegins word rest

/-- No end of the text runs into the fixed piece, whatever follows that. -/
def neverReaches (fixed : Text) : Text → Bool
  | [] => true
  | c :: rest => clash (c :: rest) fixed && neverReaches fixed rest

theorem clash_of_neverReaches {fixed text tail : Text} (reaches : neverReaches fixed text)
    (isTail : tail <:+ text) (nonempty : tail ≠ []) : clash tail fixed := by
  induction text with
  | nil => exact absurd (List.suffix_nil.mp isTail) nonempty
  | cons c rest ih =>
      simp only [neverReaches, Bool.and_eq_true] at reaches
      rcases List.suffix_cons_iff.mp isTail with whole | isTail
      · rw [whole]
        exact reaches.1
      · exact ih reaches.2 isTail

theorem not_infix_fixed_append {word fixed rest : Text} (begins : neverBegins word fixed)
    (absent : ¬ word <:+: rest) : ¬ word <:+: fixed ++ rest := by
  induction fixed with
  | nil => exact absent
  | cons c fixed ih =>
      simp only [neverBegins, Bool.and_eq_true] at begins
      rw [List.cons_append, List.infix_cons_iff]
      intro found
      rcases found with found | found
      · have clashes := begins.1
        rw [clash_eq_false (List.prefix_append (c :: fixed) rest) found] at clashes
        cases clashes
      · exact ih begins.2 found

/-- The word stays out when a piece without it is put in front of a fixed piece. -/
theorem not_infix_append {word before fixed rest : Text}
    (reaches : neverReaches fixed word.tail) (absentBefore : ¬ word <:+: before)
    (absent : ¬ word <:+: fixed ++ rest) : ¬ word <:+: before ++ (fixed ++ rest) := by
  induction before with
  | nil => exact absent
  | cons c before ih =>
      rw [List.cons_append, List.infix_cons_iff]
      intro found
      rcases found with found | found
      -- What begins in front of the fixed piece either ends there or runs into it.
      · rcases List.prefix_or_prefix_of_prefix found (List.prefix_append (c :: before) _) with
          inside | ⟨tail, rfl⟩
        · exact absentBefore inside.isInfix
        · have nonempty : tail ≠ [] := by
            intro same
            cases same
            exact absentBefore (by simp)
          have clashes := clash_of_neverReaches reaches (List.suffix_append before tail) nonempty
          have tailPrefix : tail <+: fixed ++ rest := by
            simpa only [← List.cons_append, List.prefix_append_right_inj] using found
          rw [clash_eq_false tailPrefix (List.prefix_append fixed rest)] at clashes
          cases clashes
      · exact ih (fun inside => absentBefore (List.infix_cons_iff.mpr (.inr inside))) found

/-- A fixed piece that no occurrence of the word can touch. -/
def keepsOut (word fixed : Text) : Bool := neverBegins word fixed && neverReaches fixed word.tail

theorem not_infix_of_keepsOut {word before fixed rest : Text} (keeps : keepsOut word fixed)
    (absentBefore : ¬ word <:+: before) (absent : ¬ word <:+: rest) :
    ¬ word <:+: before ++ (fixed ++ rest) := by
  simp only [keepsOut, Bool.and_eq_true] at keeps
  exact not_infix_append keeps.2 absentBefore (not_infix_fixed_append keeps.1 absent)

theorem not_infix_of_not_mem {c : Char} {word text : Text} (member : c ∈ word)
    (absent : c ∉ text) : ¬ word <:+: text := fun found => absent (found.mem member)

theorem prefix_append_cons_iff {c : Char} {word : Text} (absent : c ∉ word) (front back : Text) :
    word <+: front ++ c :: back ↔ word <+: front := by
  refine ⟨fun begins => ?_, fun begins => begins.trans (List.prefix_append _ _)⟩
  rcases List.prefix_or_prefix_of_prefix begins (List.prefix_append front _) with
    inside | ⟨rest, rfl⟩
  · exact inside
  · cases rest with
    | nil => rw [List.append_nil]
    | cons d rest =>
        rw [List.prefix_append_right_inj, List.cons_prefix_cons] at begins
        exact absurd (by simp [begins.1]) absent

/-- A word occurs on one of the two sides of a character that it does not have. -/
theorem infix_append_cons_iff {c : Char} {word : Text} (absent : c ∉ word) (front back : Text) :
    word <:+: front ++ c :: back ↔ word <:+: front ∨ word <:+: back := by
  induction front with
  | nil =>
      rw [List.nil_append, List.infix_cons_iff, List.infix_nil]
      have begins := prefix_append_cons_iff absent [] back
      rw [List.nil_append, List.prefix_nil] at begins
      rw [begins]
  | cons d front ih =>
      have begins := prefix_append_cons_iff absent (d :: front) back
      rw [List.cons_append] at begins ⊢
      rw [List.infix_cons_iff, begins, ih, List.infix_cons_iff, or_assoc]

/-- A word that ends with a mark occurs in a text that ends with it, and has no other, only at
the end. -/
theorem not_infix_concat {c : Char} {phrase text : Text} (absent : c ∉ text)
    (free : ¬ phrase <:+: text) : ¬ phrase ++ [c] <:+: text ++ [c] := by
  intro found
  obtain ⟨before, after, same⟩ := found
  rcases List.eq_nil_or_concat after with rfl | ⟨after, last, rfl⟩
  · rw [List.append_nil, ← List.append_assoc] at same
    exact free ⟨before, [], by simpa using (List.append_inj' same rfl).1⟩
  · rw [List.concat_eq_append, ← List.append_assoc] at same
    have shorter := (List.append_inj' same rfl).1
    exact absent (by rw [← shorter]; simp)

theorem splitLast?_eq_none {word text : Text} (absent : ¬ word <:+: text) :
    splitLast? word text = none := by
  induction text with
  | nil => rfl
  | cons c rest ih =>
      rw [List.infix_cons_iff, not_or] at absent
      simp only [splitLast?, ih absent.2, isPrefixOf?_eq_none absent.1, Option.map_none]

theorem splitLast?_append {word text before after : Text} (lead : Text)
    (found : splitLast? word text = some (before, after)) :
    splitLast? word (lead ++ text) = some (lead ++ before, after) := by
  induction lead with
  | nil => exact found
  | cons c lead ih => simp only [List.cons_append, splitLast?, ih]

theorem splitLast?_of_last {word after : Text} (nonempty : word ≠ [])
    (last : ¬ word <:+: word.tail ++ after) :
    splitLast? word (word ++ after) = some ([], after) := by
  cases word with
  | nil => exact absurd rfl nonempty
  | cons c word =>
      have found := isPrefixOf?_append (c :: word) after
      simp only [List.tail_cons] at last
      rw [List.cons_append] at found ⊢
      simp only [splitLast?, splitLast?_eq_none last, found, Option.map_some]

end CommentSchema.Text
