import CommentSchema.Text.Blank
import Mathlib.Data.List.DropRight

/-! Trimming takes the blanks around a text and nothing else: a text that begins and ends with a
visible character comes back, whatever blanks have been put around it. -/

namespace CommentSchema.Text

theorem trimRight_concat (text : Text) (c : Char) :
    trimRight (text ++ [c]) = if isBlank c then trimRight text else text ++ [c] := by
  induction text with
  | nil => rfl
  | cons d rest ih =>
      simp only [List.cons_append, trimRight, ih]
      cases isBlank c with
      | true => rfl
      | false =>
          cases rest with
          | nil => rfl
          | cons => rfl

theorem trimRight_eq_rdropWhile (text : Text) : trimRight text = text.rdropWhile isBlank := by
  induction text using List.reverseRecOn with
  | nil => rfl
  | append_singleton text c ih => rw [trimRight_concat, List.rdropWhile_concat, ih]

theorem trimRight_isPrefix (text : Text) : trimRight text <+: text := by
  rw [trimRight_eq_rdropWhile]
  exact List.rdropWhile_prefix isBlank text

theorem trim_isInfix (text : Text) : trim text <:+: text :=
  (trimRight_isPrefix _).isInfix.trans (List.dropWhile_suffix isBlank).isInfix

theorem trimRight_of_blank {text : Text} (blank : ∀ c ∈ text, isBlank c = true) :
    trimRight text = [] := by
  rw [trimRight_eq_rdropWhile, List.rdropWhile_eq_nil_iff]
  exact blank

theorem trimRight_append_blank {back : Text} (blank : ∀ c ∈ back, isBlank c = true) (text : Text) :
    trimRight (text ++ back) = trimRight text := by
  rw [trimRight_eq_rdropWhile, trimRight_eq_rdropWhile, List.rdropWhile, List.reverse_append,
    List.dropWhile_append_of_pos (by simpa using blank), ← List.rdropWhile]

theorem trim_append_blank {back : Text} (blank : ∀ c ∈ back, isBlank c = true) (text : Text) :
    trim (text ++ back) = trim text := by
  rw [trim, trimLeft, List.dropWhile_append]
  split
  · next nothing =>
      rw [List.dropWhile_eq_nil_iff.mpr blank, trim, trimLeft, List.isEmpty_iff.mp nothing]
  · exact trimRight_append_blank blank _

/-- What stands behind a visible character is trimmed on its own. -/
theorem trimRight_append {text : Text} (last : ∃ rest c, text = rest ++ [c] ∧ isBlank c = false)
    (back : Text) : trimRight (text ++ back) = text ++ trimRight back := by
  induction back using List.reverseRecOn with
  | nil =>
      obtain ⟨rest, c, rfl, visible⟩ := last
      simp [trimRight_concat, visible, trimRight]
  | append_singleton back c ih =>
      rw [← List.append_assoc, trimRight_concat, trimRight_concat, ih]
      split
      · rfl
      · rw [List.append_assoc]

/-- A text between blanks. -/
def Padded (text line : Text) : Prop :=
  ∃ front back, line = front ++ (text ++ back) ∧ ∀ c ∈ front ++ back, isBlank c = true

theorem padded_trim (text : Text) : Padded (trim text) text := by
  refine ⟨text.takeWhile isBlank, (trimLeft text).rtakeWhile isBlank, ?_, fun c member => ?_⟩
  · rw [trim, trimRight_eq_rdropWhile, List.rdropWhile_append_rtakeWhile, trimLeft,
      List.takeWhile_append_dropWhile]
  · rcases List.mem_append.mp member with front | back
    · exact List.mem_takeWhile_imp front
    · exact List.mem_rtakeWhile_imp back

theorem head?_trim (text : Text) : ∀ c ∈ (trim text).head?, isBlank c = false := by
  intro c first
  obtain ⟨back, whole⟩ := trimRight_isPrefix (trimLeft text)
  have kept : (trimLeft text).head? = some c := by
    rw [← whole, List.head?_append, ← trim, Option.mem_def.mp first]
    rfl
  have stops := List.head?_dropWhile_not isBlank text
  rw [← trimLeft, kept] at stops
  simpa using stops

theorem getLast?_trim (text : Text) : ∀ c ∈ (trim text).getLast?, isBlank c = false := by
  intro c last
  rw [trim, trimRight_eq_rdropWhile, List.rdropWhile, List.getLast?_reverse] at last
  have stops := List.head?_dropWhile_not isBlank (trimLeft text).reverse
  rw [Option.mem_def.mp last] at stops
  simpa using stops

/-- A text that begins and ends with a visible character. -/
structure Firm (text : Text) : Prop where
  first : ∃ c rest, text = c :: rest ∧ isBlank c = false
  last : ∃ rest c, text = rest ++ [c] ∧ isBlank c = false

theorem firm_of_trim_eq {text : Text} (nonempty : text ≠ []) (trimmed : trim text = text) :
    Firm text where
  first := by
    have visible := head?_trim text
    rw [trimmed] at visible
    exact ⟨_, _, (List.cons_head_tail nonempty).symm, visible _ (List.head?_eq_some_head nonempty)⟩
  last := by
    have visible := getLast?_trim text
    rw [trimmed] at visible
    exact ⟨_, _, (List.dropLast_append_getLast nonempty).symm,
      visible _ (List.getLast?_eq_some_getLast nonempty)⟩

theorem firm_of_visible {text : Text} (nonempty : text ≠ [])
    (visible : ∀ c ∈ text, isBlank c = false) : Firm text where
  first :=
    ⟨_, _, (List.cons_head_tail nonempty).symm, visible _ (List.head_mem nonempty)⟩
  last :=
    ⟨_, _, (List.dropLast_append_getLast nonempty).symm, visible _ (List.getLast_mem nonempty)⟩

namespace Firm

variable {text : Text}

theorem trim_append (firm : Firm text) {front : Text} (blank : ∀ c ∈ front, isBlank c = true)
    (back : Text) : trim (front ++ (text ++ back)) = text ++ trimRight back := by
  obtain ⟨c, after, starts, visible⟩ := firm.first
  have kept : trimLeft (front ++ (text ++ back)) = text ++ back := by
    rw [trimLeft, List.dropWhile_append_of_pos blank, starts, List.cons_append,
      List.dropWhile_cons_of_neg (by simp [visible])]
  rw [trim, kept, trimRight_append firm.last]

theorem trim_of_padded (firm : Firm text) {line : Text} (padded : Padded text line) :
    trim line = text := by
  obtain ⟨front, back, rfl, blank⟩ := padded
  rw [List.forall_mem_append] at blank
  rw [firm.trim_append blank.1, trimRight_of_blank blank.2, List.append_nil]

theorem trim_eq (firm : Firm text) : trim text = text :=
  firm.trim_of_padded ⟨[], [], by simp, by simp⟩

theorem trim_concat_space (firm : Firm text) : trim (text ++ [' ']) = text :=
  firm.trim_of_padded ⟨[], [' '], by simp, List.all_eq_true.mp rfl⟩

theorem append (firm : Firm text) {tail : Text}
    (last : ∃ rest c, tail = rest ++ [c] ∧ isBlank c = false) : Firm (text ++ tail) := by
  obtain ⟨c, after, rfl, visible⟩ := firm.first
  obtain ⟨before, d, rfl, visible'⟩ := last
  exact ⟨⟨c, after ++ (before ++ [d]), rfl, visible⟩,
    ⟨c :: after ++ before, d, (List.append_assoc ..).symm, visible'⟩⟩

end Firm

end CommentSchema.Text
