import CommentSchema.Builder
import CommentSchema.Proofs.Text.NormalForm
import CommentSchema.Proofs.Scan
import CommentSchema.Proofs.Text.Trimming
import CommentSchema.Text.Identifier

/-! References made and read.  What the builder refers to is read back as the context and the name
that it was made from, whatever the context holds: the base is taken off once, no end of a
reference is a blank, and a name has no dot of its own behind the last one. -/

namespace CommentSchema

namespace Text

/-- The numbers of all blanks. -/
def blanks : List Nat :=
  [0x09, 0x0a, 0x0b, 0x0c, 0x0d, 0x1c, 0x1d, 0x1e, 0x1f, 0x20, 0x85, 0xa0, 0x1680, 0x2000, 0x2001,
    0x2002, 0x2003, 0x2004, 0x2005, 0x2006, 0x2007, 0x2008, 0x2009, 0x200a, 0x2028, 0x2029, 0x202f,
    0x205f, 0x3000]

theorem mem_blanks {c : Char} (blank : isBlank c) : c.toNat ∈ blanks := by
  simp only [isBlank, Bool.or_eq_true, Bool.and_eq_true, decide_eq_true_eq, beq_iff_eq] at blank
  simp only [blanks, List.mem_cons, List.not_mem_nil, or_false]
  omega

theorem isBlank_of_isIdentifier {word : Text} (identifier : isIdentifier word) :
    ∀ c ∈ word, isBlank c = false := by
  have table : ∀ n ∈ blanks, isIdentifierStart (Char.ofNat n) = false ∧
      isIdentifierPart (Char.ofNat n) = false := by decide +kernel
  have apart (c : Char) (blank : isBlank c) :
      isIdentifierStart c = false ∧ isIdentifierPart c = false := by
    have checked := table c.toNat (mem_blanks blank)
    rwa [Char.ofNat_toNat] at checked
  cases word with
  | nil => cases identifier
  | cons c rest =>
      simp only [isIdentifier, Bool.and_eq_true, List.all_eq_true] at identifier
      intro d member
      by_contra blank
      rw [Bool.not_eq_false] at blank
      rcases List.mem_cons.mp member with rfl | member
      · exact absurd identifier.1 (by simp [(apart d blank).1])
      · exact absurd (identifier.2 d member) (by simp [(apart d blank).2])

end Text

namespace Reference

variable {text qualifier last : Text}

theorem splitQualified_of_bare (bare : '.' ∉ text) : splitQualified text = ([], text) := by
  rw [splitQualified, Text.splitLast?_eq_none]
  · rfl
  · exact Text.not_infix_of_not_mem (List.mem_singleton_self '.') bare

theorem splitQualified_append (bare : '.' ∉ last) :
    splitQualified (qualifier ++ '.' :: last) = (qualifier, last) := by
  have split : Text.splitLast? ['.'] (qualifier ++ '.' :: last) = some (qualifier, last) :=
    (Text.splitLast?_eq_some_iff (by decide)).mpr
      ⟨rfl, Text.not_infix_of_not_mem (List.mem_singleton_self '.') bare⟩
  rw [splitQualified, split]
  rfl

theorem not_mem_splitQualified (text : Text) : '.' ∉ (splitQualified text).2 := by
  intro member
  have inside := (List.singleton_infix_iff _ _).mpr member
  unfold splitQualified at inside
  cases split : Text.splitLast? ['.'] text with
  | none =>
      rw [split] at inside
      exact (Text.splitLast?_eq_none_iff (by decide)).mp split inside
  | some pieces =>
      rw [split] at inside
      exact ((Text.splitLast?_eq_some_iff (by decide)).mp split).2 inside

/-- The base is read off a reference that does not end with a blank. -/
theorem interpret_ref (visible : ∀ c ∈ text.getLast?, Text.isBlank c = false) :
    interpret (some (defaultBase ++ text)) = splitQualified text := by
  have trimmed : Text.trim (defaultBase ++ text) = defaultBase ++ text := by
    rcases List.eq_nil_or_concat text with rfl | ⟨front, c, rfl⟩
    · decide
    · have firm : Text.Firm defaultBase :=
        ⟨⟨'#', _, rfl, by decide⟩, ⟨"#/definitions".toList, '/', by decide, by decide⟩⟩
      exact (firm.append ⟨front, c, by simp, visible c (by simp)⟩).trim_eq
  rw [interpret, Option.getD_some, trimmed, Text.isPrefixOf?_append]
  rfl

/-- The names that a type can be called by: identifiers in their normal form, with dots between
them. -/
inductive IsTypeName : Text → Prop where
  | plain {word : Text} (identifier : Text.isIdentifier word) :
      IsTypeName (Text.Normal.normalize word)
  | dotted {qualifier word : Text} (qualified : IsTypeName qualifier)
      (identifier : Text.isIdentifier word) :
      IsTypeName (qualifier ++ '.' :: Text.Normal.normalize word)

theorem visible_append_dot (front : Text)
    (visible : ∀ c ∈ last.getLast?, Text.isBlank c = false) :
    ∀ c ∈ (front ++ '.' :: last).getLast?, Text.isBlank c = false := by
  intro c ends
  rw [List.getLast?_append_of_ne_nil _ (List.cons_ne_nil '.' last)] at ends
  cases last with
  | nil =>
      cases ends
      decide
  | cons d rest => exact visible c (by rwa [List.getLast?_cons_cons] at ends)

theorem IsTypeName.visible {name : Text} (named : IsTypeName name) :
    ∀ c ∈ name.getLast?, Text.isBlank c = false := by
  have word {word : Text} (identifier : Text.isIdentifier word) :
      ∀ c ∈ (Text.Normal.normalize word).getLast?, Text.isBlank c = false := fun c ends =>
    Text.Normal.isBlank_normalize (Text.isBlank_of_isIdentifier identifier) c
      (List.mem_of_getLast? ends)
  cases named with
  | plain identifier => exact word identifier
  | dotted qualified identifier => exact visible_append_dot _ (word identifier)

/-- A bare name that is qualified is read back with its context. -/
theorem interpret_qualify (context : Text) (bare : '.' ∉ last)
    (visible : ∀ c ∈ last.getLast?, Text.isBlank c = false) :
    interpret (some (defaultBase ++ qualify context last)) = (context, last) := by
  cases context with
  | nil =>
      have alone : qualify [] last = last := by simp [qualify]
      rw [alone, interpret_ref visible, splitQualified_of_bare bare]
  | cons c rest =>
      have inside : qualify (c :: rest) last = c :: rest ++ '.' :: last := by
        simp [qualify, bare]
      rw [inside, interpret_ref (visible_append_dot _ visible), splitQualified_append bare]

/-- A dotted name is not qualified, and is read back in two. -/
theorem interpret_qualify_dotted (context : Text) (bare : '.' ∉ last)
    (visible : ∀ c ∈ (qualifier ++ '.' :: last).getLast?, Text.isBlank c = false) :
    interpret (some (defaultBase ++ qualify context (qualifier ++ '.' :: last))) =
      (qualifier, last) := by
  have itself : qualify context (qualifier ++ '.' :: last) = qualifier ++ '.' :: last := by
    simp [qualify]
  rw [itself, interpret_ref visible, splitQualified_append bare]

end Reference

namespace Builder

variable {builder : Builder} {expr : Expr} {name : Text}

theorem build_of_dottedName? [Dialect] (field context : Text) (inline : Bool)
    (named : dottedName? expr = .ok (some name)) :
    builder.build field expr context inline = .ok (builder.named context inline name) := by
  have dotted := named
  unfold dottedName? at named
  split at named
  · cases named
  · cases expr with
    | name id =>
        cases named
        rfl
    | «attribute» value attr =>
        simp only [build, node, members, dotted, Error.ok_bind, single, combine]
        rfl
    | _ => cases named

theorem named_of_foreign (context : Text) (foreign : builtin? name = none) :
    builder.named context false name =
      { ref := some (builder.base ++ Reference.qualify context name) } := by
  rw [named, foreign]

/-- A reference is read back as what it was made from: a bare name as the context and the name,
so that it leads into the same context again, and a dotted one as what stands in front of its last
dot and behind it.  A name that is read has never a dot. -/
theorem interpret_build [Dialect] (builder : Builder)
    (base : builder.base = Reference.defaultBase) :
    (∀ field context expr name, dottedName? expr = .ok (some name) →
      Reference.IsTypeName name → builtin? name = none →
      ∃ ref, builder.build field expr context false = .ok { ref := some ref } ∧
        ('.' ∉ name → Reference.interpret (some ref) = (context, name) ∧
          ∀ other, builder.build field other (Reference.interpret (some ref)).1 false =
            builder.build field other context false) ∧
        ∀ qualifier last, name = qualifier ++ '.' :: last → '.' ∉ last →
          Reference.interpret (some ref) = (qualifier, last)) ∧
    ∀ raw, '.' ∉ (Reference.interpret raw).2 := by
  refine ⟨fun field context expr name named typeName foreign => ?_, fun raw =>
    Reference.not_mem_splitQualified _⟩
  refine ⟨builder.base ++ Reference.qualify context name, ?_, fun bare => ?_,
    fun qualifier last same bare => ?_⟩
  · rw [build_of_dottedName? field context false named, named_of_foreign context foreign]
  · have read := Reference.interpret_qualify context bare typeName.visible
    rw [base, read]
    exact ⟨rfl, fun other => rfl⟩
  · subst same
    rw [base]
    exact Reference.interpret_qualify_dotted context bare typeName.visible

/-- The context begins as a reference does and has a space and a dot. -/
def basedContext : Text := "#/definitions/a b.".toList

theorem interpret_build_basedContext :
    (∃ ref, ({} : Builder).build [] (.name "Foo".toList) basedContext false =
        .ok { ref := some ref } ∧
      Reference.interpret (some ref) = (basedContext, "Foo".toList)) ∧
    (∃ ref, ({} : Builder).build [] (.attribute (.name "a".toList) "B".toList) basedContext false =
        .ok { ref := some ref } ∧ Reference.interpret (some ref) = ("a".toList, "B".toList)) ∧
    '.' ∉ (Reference.interpret (some "a.B.".toList)).2 := by
  have bare : Reference.IsTypeName "Foo".toList :=
    .plain (show Text.isIdentifier "Foo".toList by decide)
  have dotted : Reference.IsTypeName "a.B".toList :=
    .dotted (.plain (show Text.isIdentifier "a".toList by decide))
      (show Text.isIdentifier "B".toList by decide)
  obtain ⟨refers, undotted⟩ := interpret_build {} rfl
  obtain ⟨ref, built, back, -⟩ := refers [] basedContext (.name "Foo".toList) "Foo".toList rfl
    bare (by decide)
  obtain ⟨ref', built', -, back'⟩ := refers [] basedContext
    (.attribute (.name "a".toList) "B".toList) "a.B".toList rfl dotted (by decide)
  exact ⟨⟨ref, built, (back (by decide)).1⟩,
    ⟨ref', built', back' "a".toList "B".toList rfl (by decide)⟩, undotted _⟩

end Builder

end CommentSchema
