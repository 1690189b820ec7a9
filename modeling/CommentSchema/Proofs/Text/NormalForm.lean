import CommentSchema.Text.Blank
import CommentSchema.Text.Normal

/-! What the normal form of a word keeps.  Its characters come out of the tables or are put
together by rule, so a property that all of these have is kept by the whole form; that no
character is a blank is one. -/

namespace CommentSchema.Text.Normal

/-- A property of characters that the tables of the normal form never lose. -/
structure Kept (holds : Nat → Prop) : Prop where
  letter : ∀ n, 0x1100 ≤ n → n < 0x1200 → holds n
  syllable : ∀ n, 0xac00 ≤ n → n < 0xd7a4 → holds n
  composition : ∀ entry ∈ compositions, holds entry.1 ∧ holds entry.2.1 ∧ holds entry.2.2
  shift : ∀ entry ∈ shifts, ∀ i < entry.2.1 + 1 - entry.1, holds (entry.2.2 + i)
  image : ∀ entry ∈ images, ∀ m ∈ entry.2, holds m
  sequence : ∀ entry ∈ sequences, ∀ m ∈ entry.2, holds m

theorem mem_insertMark {n m : Nat} {codes : List Nat} :
    m ∈ insertMark n codes ↔ m = n ∨ m ∈ codes := by
  induction codes with
  | nil => simp [insertMark]
  | cons first rest ih =>
      unfold insertMark
      split
      · rw [List.mem_cons, ih, List.mem_cons, or_left_comm]
      · rw [List.mem_cons]

theorem mem_orderMarks {m : Nat} {codes : List Nat} : m ∈ orderMarks codes ↔ m ∈ codes := by
  induction codes with
  | nil => rfl
  | cons n rest ih =>
      rw [orderMarks, List.foldr_cons, ← orderMarks]
      split
      · rw [List.mem_cons, ih, List.mem_cons]
      · rw [mem_insertMark, ih, List.mem_cons]

namespace Kept

variable {holds : Nat → Prop}

theorem compatible (kept : Kept holds) {n : Nat} {found : List Nat}
    (stands : compatible? n = some found) : ∀ m ∈ found, holds m := by
  unfold compatible? at stands
  split at stands
  · next first last image entry =>
      have inside := List.find?_some entry
      rw [Bool.and_eq_true, decide_eq_true_eq, decide_eq_true_eq] at inside
      cases stands
      intro m member
      rw [List.mem_singleton.mp member]
      exact kept.shift _ (List.mem_of_find?_eq_some entry) _ (by dsimp only; omega)
  · split at stands
    · next first list entry =>
        obtain ⟨image, at_, same⟩ := Option.map_eq_some_iff.mp stands
        cases same
        intro m member
        rw [List.mem_singleton.mp member]
        exact kept.image _ (List.mem_of_find?_eq_some entry) _ (List.mem_of_getElem? at_)
    · obtain ⟨before, after, same, -⟩ := List.lookup_eq_some_iff.mp stands
      exact kept.sequence (n, found) (by simp [same])

theorem decompose (kept : Kept holds) {depth n : Nat} (whole : holds n) :
    ∀ m ∈ decompose depth n, holds m :=
  forall_decompose kept.letter (fun entry member => (kept.composition entry member).2)
    (fun _ _ => kept.compatible) whole

theorem compose (kept : Kept holds) {base : Nat} {marks rest : List Nat} (whole : holds base)
    (behind : ∀ m ∈ marks, holds m) (others : ∀ m ∈ rest, holds m) :
    ∀ m ∈ compose base marks rest, holds m := by
  induction rest generalizing base marks with
  | nil =>
      intro m member
      rw [Normal.compose, List.mem_cons, List.mem_reverse] at member
      rcases member with rfl | member
      · exact whole
      · exact behind m member
  | cons n rest ih =>
      rw [List.forall_mem_cons] at others
      simp only [Normal.compose]
      generalize (marks.head?.any fun mark => decide (markClass n ≤ markClass mark)) = blocked
      cases found : if blocked then none else composed? base n with
      | some composed =>
          have fits : composed? base n = some composed := by
            split at found
            · cases found
            · exact found
          refine ih ?_ behind others.2
          exact forall_composed? kept.syllable
            (fun entry member => (kept.composition entry member).1) fits
      | none =>
          dsimp only
          split
          · intro m member
            rw [List.cons_append, List.mem_cons, List.mem_append, List.mem_reverse] at member
            rcases member with rfl | member | member
            · exact whole
            · exact behind m member
            · exact ih others.1 (by simp) others.2 m member
          · exact ih whole (List.forall_mem_cons.mpr ⟨others.1, behind⟩) others.2

theorem composeAll (kept : Kept holds) {codes : List Nat} (whole : ∀ m ∈ codes, holds m) :
    ∀ m ∈ composeAll codes, holds m := by
  induction codes with
  | nil => simp [Normal.composeAll]
  | cons n rest ih =>
      rw [List.forall_mem_cons] at whole
      unfold Normal.composeAll
      split
      · exact kept.compose whole.1 (by simp) whole.2
      · exact List.forall_mem_cons.mpr ⟨whole.1, ih whole.2⟩

/-- The characters of a normal form have the property where those of the word have it. -/
theorem normalize (kept : Kept holds) {word : Text} (whole : ∀ c ∈ word, holds c.toNat) :
    ∀ c ∈ normalize word, ∃ n, c = Char.ofNat n ∧ holds n := by
  intro c member
  unfold Normal.normalize at member
  split at member
  · exact ⟨c.toNat, (Char.ofNat_toNat c).symm, whole c member⟩
  · obtain ⟨n, inside, rfl⟩ := List.mem_map.mp member
    refine ⟨n, rfl, kept.composeAll (fun m ordered => ?_) n inside⟩
    obtain ⟨d, inWord, part⟩ := List.mem_flatMap.mp (mem_orderMarks.mp ordered)
    exact kept.decompose (whole d inWord) m part

end Kept

/-- A character that is no blank, by its number. -/
def Visible (n : Nat) : Prop := isBlank (Char.ofNat n) = false

instance (n : Nat) : Decidable (Visible n) := inferInstanceAs (Decidable (_ = _))

theorem visible_of_bounds {n : Nat} (low : 0xa0 < n)
    (apart : n < 0x1680 ∨ 0x3000 < n ∧ n < 0xd800) : Visible n := by
  have valid : n.isValidChar := .inl (by omega)
  have same : (Char.ofNat n).toNat = n := by rw [Char.ofNat, dif_pos valid]; rfl
  unfold Visible isBlank
  rw [same]
  simp only [Bool.or_eq_false_iff, Bool.and_eq_false_iff, beq_eq_false_iff_ne,
    decide_eq_false_iff_not]
  omega

theorem kept_visible : Kept Visible where
  letter _ low high := visible_of_bounds (by omega) (.inl (by omega))
  syllable _ low high := visible_of_bounds (by omega) (.inr ⟨by omega, by omega⟩)
  composition := by decide +kernel
  shift := by decide +kernel
  image := by decide +kernel
  sequence := by decide +kernel

/-- The normal form of a word without blanks has none. -/
theorem isBlank_normalize {word : Text} (visible : ∀ c ∈ word, isBlank c = false) :
    ∀ c ∈ normalize word, isBlank c = false := by
  intro c member
  have whole : ∀ c ∈ word, Visible c.toNat := fun c inWord => by
    rw [Visible, Char.ofNat_toNat]
    exact visible c inWord
  obtain ⟨n, rfl, holds⟩ := kept_visible.normalize whole c member
  exact holds

end CommentSchema.Text.Normal
