import CommentSchema.Proofs.ClauseOrder

/-! Reading undoes writing: a comment that is written from its parts is read as those parts, and
the reading fails only where a literal or a type in it does. -/

namespace CommentSchema

namespace Comment.Parts

variable (builder : Builder) (context : Text) (parts : Parts)

def Readable [Dialect] : Prop :=
  (∀ literal ∈ parts.default?, ∃ value, Literal.read literal = .ok value) ∧
    ∀ type ∈ parts.type.types, ∃ node, builder.Denotes parts.name context type node

def HasDefault [Dialect] (value? : Option Value) : Prop :=
  Option.Rel (fun literal value => Literal.read literal = .ok value) parts.default? value?

/-- What is written about the type in the parts comes to a shape. -/
inductive HasShape [Dialect] : Shape → Prop where
  | unstated (stated : parts.type = .unstated) : HasShape .declared
  | override {type : Text} {node : Definition} (stated : parts.type = .override type)
      (denotes : builder.Denotes parts.name context type node) : HasShape (.replaced node)
  | oneOf {types : List Text} {nodes : List Definition} (stated : parts.type = .oneOf types)
      (denote : List.Forall₂ (builder.Denotes parts.name context) types nodes) :
      HasShape (.alternatives nodes)

def describe (definition : Definition) : Definition :=
  { definition with
    examples := (parts.example?.map ([·])).getD definition.examples
    description := parts.prose
    htmlDescription := Markdown.stripParagraphTags (Markdown.render parts.prose) }

/-- What a comment with these parts makes of a definition, and what it says beside that.  A type
that overrides leaves nothing of the definition, and no default either. -/
inductive Turns [Dialect] (definition : Definition) : Definition → Meta → Prop where
  | override {type : Text} {stub : Definition} (stated : parts.type = .override type)
      (denotes : builder.Denotes parts.name context type stub) :
      Turns definition (parts.describe stub) { required := false, noDerive := true }
  | oneOf {types : List Text} {nodes : List Definition} {value? : Option Value}
      (stated : parts.type = .oneOf types)
      (denote : List.Forall₂ (builder.Denotes parts.name context) types nodes)
      (hasDefault : parts.HasDefault value?) :
      Turns definition
        (parts.describe
          { definition with default := value?.getD definition.default, oneOf := nodes })
        { required := false, noDerive := false }
  | unstated {value? : Option Value} (stated : parts.type = .unstated)
      (hasDefault : parts.HasDefault value?) :
      Turns definition
        (parts.describe { definition with default := value?.getD definition.default })
        { required := false, noDerive := false }

def reading (value? : Option Value) (shape : Shape) : Reading :=
  { values? := none
    default? := value?
    shape
    example? := parts.example?
    description := parts.prose
    htmlDescription := Markdown.stripParagraphTags (Markdown.render parts.prose)
    required := false }

variable {parts}

/-- All entries of sound parts are read. -/
theorem read_of_sound (sound : parts.Sound) : parts.type.read [] = parts.type := by
  have listed := sound.listed
  cases stated : parts.type with
  | unstated => rfl
  | override type => rw [TypePart.read, runOn_nil]
  | oneOf types =>
      rw [TypePart.read, readable, List.takeWhile_eq_self_iff.mpr]
      intro text member
      simpa using (listed types stated).2 text member

theorem found_of_sound (sound : parts.Sound) : parts.found parts.selected = parts := by
  rw [found_selected, read_of_sound sound]

theorem value_eq_ok [Dialect] {name : Text} {value? : Option Value} :
    parts.value name = .ok value? ↔ parts.HasDefault value? := by
  unfold value HasDefault
  cases parts.default? with
  | none =>
      constructor
      · intro same
        cases same
        exact .none
      · intro related
        cases related
        rfl
  | some literal =>
      simp only [Error.map_eq_ok, Error.mapError_eq_ok]
      constructor
      · intro read
        obtain ⟨value, read, rfl⟩ := read
        exact .some read
      · intro related
        cases related with
        | some read => exact ⟨_, read, rfl⟩

theorem exists_hasDefault [Dialect] :
    (∃ value?, parts.HasDefault value?) ↔
      ∀ literal ∈ parts.default?, ∃ value, Literal.read literal = .ok value :=
  exists_rel

theorem exists_denote [Dialect] {builder : Builder} {context name : Text} {types : List Text} :
    (∃ nodes, List.Forall₂ (builder.Denotes name context) types nodes) ↔
      ∀ type ∈ types, ∃ node, builder.Denotes name context type node := by
  induction types with
  | nil => simp
  | cons type rest ih =>
      rw [List.forall_mem_cons, ← ih]
      constructor
      · intro denotes
        obtain ⟨_, denote⟩ := denotes
        cases denote with
        | cons denotes denote => exact ⟨⟨_, denotes⟩, _, denote⟩
      · intro denotes
        obtain ⟨⟨node, denotes⟩, nodes, denote⟩ := denotes
        exact ⟨node :: nodes, .cons denotes denote⟩

theorem exists_hasShape [Dialect] {builder : Builder} {context : Text}
    (readable : ∀ type ∈ parts.type.types, ∃ node, builder.Denotes parts.name context type node) :
    ∃ shape, parts.HasShape builder context shape := by
  cases stated : parts.type with
  | unstated => exact ⟨_, .unstated stated⟩
  | override type =>
      obtain ⟨node, denotes⟩ := readable type (by simp [stated, TypePart.types])
      exact ⟨_, .override stated denotes⟩
  | oneOf types =>
      rw [stated] at readable
      obtain ⟨nodes, denote⟩ := exists_denote.mpr readable
      exact ⟨_, .oneOf stated denote⟩

theorem readable_of_read [Dialect] {builder : Builder} {context : Text} {value? : Option Value}
    {shape : Shape} (hasDefault : parts.HasDefault value?)
    (hasShape : parts.HasShape builder context shape) : parts.Readable builder context := by
  refine ⟨exists_hasDefault.mp ⟨value?, hasDefault⟩, ?_⟩
  · intro type written
    cases hasShape with
    | unstated stated =>
        rw [stated] at written
        cases written
    | override stated denotes =>
        rw [stated, TypePart.types, List.mem_singleton] at written
        rw [written]
        exact ⟨_, denotes⟩
    | oneOf stated denote =>
        rw [stated] at written
        exact exists_denote.mp ⟨_, denote⟩ type written

theorem turns_enter [Dialect] {builder : Builder} {context : Text} {value? : Option Value}
    {shape : Shape} (hasDefault : parts.HasDefault value?)
    (hasShape : parts.HasShape builder context shape) (definition : Definition) :
    parts.Turns builder context definition ((parts.reading value? shape).enter definition)
      (parts.reading value? shape).info := by
  cases hasShape with
  | unstated stated =>
      have turned : parts.Turns builder context definition _ _ := .unstated stated hasDefault
      simpa [Reading.enter, Reading.info, reading, describe, Shape.apply, Shape.noDerive]
        using turned
  | override stated denotes => exact .override stated denotes
  | oneOf stated denote =>
      have turned : parts.Turns builder context definition _ _ := .oneOf stated denote hasDefault
      simpa [Reading.enter, Reading.info, reading, describe, Shape.apply, Shape.noDerive]
        using turned

end Comment.Parts

namespace Interpreter

variable {builder : Builder} {strict : Bool} {clause name context : Text}

theorem buildTypes_eq_ok [Dialect] {texts : List Text} {nodes : List Definition} :
    ((standard builder strict).buildTypes clause name context texts).outcome = .ok nodes ↔
      List.Forall₂ (builder.Denotes name context) texts nodes := by
  induction texts generalizing nodes with
  | nil =>
      simp only [buildTypes, Run.outcome_pure, List.forall₂_nil_left_iff, Except.ok.injEq,
        eq_comm]
  | cons text rest ih =>
      simp only [buildTypes, Run.outcome_bind, Error.bind_eq_ok, buildType_eq_ok, ih,
        Run.outcome_pure, Except.ok.injEq, List.forall₂_cons_left_iff]
      constructor
      · intro built
        obtain ⟨first, denotes, others, denote, rfl⟩ := built
        exact ⟨first, others, denotes, denote, rfl⟩
      · intro built
        obtain ⟨first, others, denotes, denote, rfl⟩ := built
        exact ⟨first, denotes, others, denote, rfl⟩

section

variable {parts : Comment.Parts}

theorem shape_eq_ok [Dialect] (sound : parts.Sound) {seen : Text} {shape : Shape} :
    parts.type.shape builder context parts.name seen = .ok shape ↔
      parts.HasShape builder context shape := by
  constructor
  · intro shaped
    cases stated : parts.type with
    | unstated =>
        rw [stated] at shaped
        cases shaped
        exact .unstated stated
    | override type =>
        rw [stated, Comment.TypePart.shape, Error.map_eq_ok] at shaped
        obtain ⟨node, built, rfl⟩ := shaped
        exact .override stated (buildType_eq_ok.mp built)
    | oneOf types =>
        cases types with
        | nil => exact absurd rfl (sound.listed [] stated).1
        | cons first others =>
            rw [stated, Comment.TypePart.shape, Error.map_eq_ok] at shaped
            · obtain ⟨nodes, built, rfl⟩ := shaped
              exact .oneOf stated (buildTypes_eq_ok.mp built)
            · simp
  · intro hasShape
    cases hasShape with
    | unstated stated =>
        rw [stated]
        rfl
    | override stated denotes =>
        rw [stated, Comment.TypePart.shape, Error.map_eq_ok]
        exact ⟨_, buildType_eq_ok.mpr denotes, rfl⟩
    | @oneOf types nodes stated denote =>
        cases types with
        | nil => exact absurd rfl (sound.listed [] stated).1
        | cons first others =>
            rw [stated, Comment.TypePart.shape, Error.map_eq_ok]
            · exact ⟨_, buildTypes_eq_ok.mpr denote, rfl⟩
            · simp

theorem reading_write [Dialect] (sound : parts.Sound) {raw : Option Text}
    (resolves : Reference.interpret raw = (context, parts.name)) {reading : Reading} :
    (standard builder false).reading raw parts.write = .ok reading ↔
      ∃ value? shape, parts.HasDefault value? ∧ parts.HasShape builder context shape ∧
        reading = parts.reading value? shape := by
  have written : (standard builder false).reading raw (parts.arrange parts.selected) = _ :=
    reading_arrange sound.writable (.of_perm (.refl _)) resolves
  rw [Comment.Parts.arrange_selected, Comment.Parts.found_of_sound sound] at written
  rw [written]
  simp only [Comment.Parts.conclude, Error.bind_eq_ok, Comment.Parts.value_eq_ok,
    shape_eq_ok sound, Except.ok.injEq, Comment.Parts.removeName_withProse sound.name]
  constructor
  · intro read
    obtain ⟨value?, hasDefault, shape, hasShape, rfl⟩ := read
    exact ⟨value?, shape, hasDefault, hasShape, rfl⟩
  · intro stated
    obtain ⟨value?, shape, hasDefault, hasShape, rfl⟩ := stated
    exact ⟨value?, hasDefault, shape, hasShape, rfl⟩

/-- A comment that is written from parts succeeds just when every part of it can be read, and
then it turns the definition into what its parts say. -/
theorem annotate_write [Dialect] (sound : parts.Sound) {raw : Option Text}
    (resolves : Reference.interpret raw = (context, parts.name)) (definition : Definition) :
    let annotated := (standard builder false).annotate raw parts.write definition
    ((∃ info, annotated.2 = .ok info) ↔ parts.Readable builder context) ∧
      ∀ info, annotated.2 = .ok info →
        parts.Turns builder context definition annotated.1 info := by
  intro annotated
  have entered := annotate_eq (standard builder false) raw parts.write rfl definition
  simp only [annotated, entered]
  cases read : (standard builder false).reading raw parts.write with
  | ok reading =>
      obtain ⟨value?, shape, hasDefault, hasShape, rfl⟩ := (reading_write sound resolves).mp read
      refine ⟨iff_of_true ⟨_, rfl⟩ ?_, fun info answered => ?_⟩
      · exact Comment.Parts.readable_of_read hasDefault hasShape
      · cases answered
        exact Comment.Parts.turns_enter hasDefault hasShape definition
  | error error =>
      refine ⟨iff_of_false (fun ⟨info, answered⟩ => nomatch answered) fun readable => ?_,
        fun info answered => nomatch answered⟩
      obtain ⟨value?, hasDefault⟩ := Comment.Parts.exists_hasDefault.mpr readable.1
      obtain ⟨shape, hasShape⟩ := Comment.Parts.exists_hasShape readable.2
      have success := (reading_write sound resolves).mpr
        ⟨value?, shape, hasDefault, hasShape, rfl⟩
      rw [read] at success
      cases success

end

def sizeParts : Comment.Parts :=
  { name := "Size".toList
    prose := "size".toList
    example? := some "3".toList
    type := .oneOf ["int".toList, "str".toList]
    default? := some "3".toList }

theorem sizeParts_sound : sizeParts.Sound := by
  have three : Comment.Plain "3".toList := ⟨by decide, by decide, by decide⟩
  have visible : sizeParts.name.any Text.isBlank = false := by decide
  have name : Comment.PlainName sizeParts.name :=
    ⟨by decide, by simpa using visible, by decide, by decide⟩
  refine ⟨name, ⟨by decide, by decide, by decide⟩,
    by decide, by decide, ?_, ?_, ?_, ?_⟩
  · intro text written
    have same : "3".toList = text := Option.some.inj written
    rw [← same]
    exact three
  · have int : Comment.Plain "int".toList := ⟨by decide, by decide, by decide⟩
    have str : Comment.Plain "str".toList := ⟨by decide, by decide, by decide⟩
    exact List.forall_mem_cons.mpr ⟨int, List.forall_mem_singleton.mpr str⟩
  · intro types stated
    have same : ["int".toList, "str".toList] = types := Comment.TypePart.oneOf.inj stated
    rw [← same]
    decide
  · intro text written
    have same : "3".toList = text := Option.some.inj written
    rw [← same]
    exact three

theorem sizeParts_readable : sizeParts.Readable {} "shop".toList := by
  refine ⟨?_, List.forall_mem_cons.mpr ⟨?_, List.forall_mem_singleton.mpr ?_⟩⟩
  · intro literal written
    have same : "3".toList = literal := Option.some.inj written
    rw [← same]
    exact ⟨.int 3, rfl⟩
  · exact ⟨{ type := some "integer".toList }, .name "int".toList,
      by with_unfolding_all rfl, rfl⟩
  · exact ⟨{ type := some "string".toList }, .name "str".toList,
      by with_unfolding_all rfl, rfl⟩

theorem annotate_write_sizeParts :
    let raw := some "shop.Size".toList
    sizeParts.Sound ∧ Reference.interpret raw = ("shop".toList, sizeParts.name) ∧
      ∃ info, ((standard {} false).annotate raw sizeParts.write {}).2 = .ok info := by
  have resolves : Reference.interpret (some "shop.Size".toList) =
      ("shop".toList, sizeParts.name) := rfl
  exact ⟨sizeParts_sound, resolves,
    (annotate_write sizeParts_sound resolves {}).1.mpr sizeParts_readable⟩

end Interpreter

end CommentSchema
