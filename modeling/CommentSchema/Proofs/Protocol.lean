import CommentSchema.Proofs.Residue
import CommentSchema.Proofs.Stage

/-! In what order a run asks its collaborators.  The answers lay out the stages of the run, and
it goes through them up to the first that does not pass: it makes their calls, each of them
once, and ends with the error of the last of them. -/

namespace CommentSchema

namespace Comment

/-- What is left of a comment without its enum block once all clauses are taken out. -/
def described (name comment : Text) : Text :=
  let text := (extractDefault (stripTags comment)).1
  removeName name (extractExample (typeClauses text).1).1

/-- The text begins a list of types, and where it does so last, no entry follows. -/
def LacksEntries (text : Text) : Prop :=
  ∃ before after, text = before ++ (oneOfLead ++ after) ∧
    ¬ oneOfLead <:+: oneOfLead.tail ++ after ∧
    ∀ payload rest, payload ≠ [] → backtick ∉ payload →
      after ≠ backtick :: (payload ++ backtick :: rest)

theorem extractOneOf_eq_error_iff {text : Text} {error : Error} (line : '\n' ∉ text) :
    extractOneOf text = .error error ↔
      LacksEntries text ∧ error = .oneOfWithoutEntries text := by
  have lacks : LacksEntries text ↔
      ∃ before after, oneOfSplit? text = some (before, after) ∧ entries after = [] := by
    simp only [LacksEntries, oneOfSplit?_of_line line, entries_eq_nil_iff, item?_eq_none_iff,
      Text.splitLast?_eq_some_iff (show oneOfLead ≠ [] by decide), and_assoc]
  rw [lacks, extractOneOf]
  rcases oneOfSplit? text with _ | ⟨before, after⟩
  · simp
  · cases found : entries after with
    | nil => simpa [found] using ⟨Eq.symm, Eq.symm⟩
    | cons first others => simp [found]

theorem line_extract {lead text : Text} (line : '\n' ∉ text) : '\n' ∉ (extract lead text).1 :=
  fun member => line ((extract_leaves lead line).infix_text.mem member)

end Comment

namespace Interpreter

open Stage (asks checks)

variable (interpreter : Interpreter)

/-! ### The stages -/

def defaultStages (name : Text) (literal? : Option Text) : List Stage :=
  literal?.toList.map fun literal =>
    asks (.parseLiteral literal)
      ((interpreter.parseLiteral literal).mapError (defaultError literal name))

def typeStages (clause name context text : Text) : List Stage :=
  let parsed := interpreter.parseType text
  let built := parsed >>= fun expr => interpreter.buildNode name expr context false
  [asks (.parseType text) (parsed.mapError (parseError clause text name)),
    asks (.buildNode name context false) (built.mapError (buildError clause text name))]

/-- An override is one type; without it there may be a list of types, which has entries. -/
def shapeStages (name context text : Text) : List Stage :=
  match (Comment.typeClauses text).2 with
  | (some type, _) => interpreter.typeStages overrideClause name context type
  | (none, types?) =>
      checks (Comment.extractOneOf text) ::
        (types?.getD []).flatMap (interpreter.typeStages oneOfClause name context)

/-- The stages on a comment without its enum block, for which there is a sentence. -/
def textStages (name context comment sentence : Text) : List Stage :=
  let (text, literal?) := Comment.extractDefault (Comment.stripTags comment)
  let description := Comment.described name comment
  let whole := Comment.joinNonempty [' '] [description, sentence]
  interpreter.defaultStages name literal? ++ (interpreter.shapeStages name context text ++
    [checks (interpreter.checkDescription name description).outcome,
      asks (.render whole) (interpreter.render whole)])

def stages (raw : Option Text) (comment : Text) (definition : Definition) : List Stage :=
  let resolved := interpreter.resolveReference raw
  asks (.resolveReference raw) resolved ::
    match resolved with
    | .error _ => []
    | .ok (context, name) =>
        let marked := interpreter.enumPass context definition comment
        checks (interpreter.checkLead name comment).outcome ::
          asks (.enumPass context comment) (marked.mapError (·.onField name)) ::
            match marked with
            | .error _ => []
            | .ok (_, block?) =>
                interpreter.textStages name context ((block?.map (·.remaining)).getD comment)
                  ((block?.map (·.sentence)).getD [])

/-! ### A run goes through them -/

variable {interpreter}

theorem calls_checkLead (name comment : Text) :
    (interpreter.checkLead name comment).calls = [] := by
  unfold checkLead
  split <;> rfl

theorem calls_checkDescription (name description : Text) :
    (interpreter.checkDescription name description).calls = [] := by
  unfold checkDescription
  split
  · split
    · rfl
    · split <;> rfl
  · rfl

theorem follows_buildType (clause name context text : Text) :
    (interpreter.buildType clause name context text).Follows
      (interpreter.typeStages clause name context text) := by
  unfold buildType typeStages
  rw [Run.mapError_call]
  refine .ask fun expr parsed => ?_
  rw [Error.mapError_eq_ok] at parsed
  rw [Run.mapError_call, parsed]
  exact Run.follows_call _ _

theorem follows_buildTypes (clause name context : Text) (texts : List Text) :
    (interpreter.buildTypes clause name context texts).Follows
      (texts.flatMap (interpreter.typeStages clause name context)) := by
  induction texts with
  | nil => exact Run.follows_pure []
  | cons text rest ih =>
      rw [buildTypes, List.flatMap_cons]
      exact (follows_buildType clause name context text).bind fun first _ => ih.returns _

theorem follows_readDefault (name text : Text) :
    (interpreter.readDefault name text).Follows
      (interpreter.defaultStages name (Comment.extractDefault text).2) := by
  unfold readDefault
  rcases Comment.extractDefault text with ⟨rest, literal?⟩
  cases literal? with
  | none => exact Run.follows_pure _
  | some literal => exact .ask fun value _ => Run.follows_pure _

theorem follows_readShape (name context text : Text) :
    (interpreter.readShape name context text).Follows
      (interpreter.shapeStages name context text) := by
  unfold readShape shapeStages Comment.typeClauses
  rcases extracted : Comment.extractType text with ⟨rest, type?⟩
  cases type? with
  | some type => exact (follows_buildType overrideClause name context type).returns _
  | none =>
      cases Comment.extractType_none extracted
      have silent (listed : Except Error (Text × Option (List Text))) :
          (Run.lift listed).calls = [] := rfl
      dsimp only
      cases Comment.extractOneOf text with
      | error fault => exact .check (silent (.error fault)) fun _ found => nomatch found
      | ok listed =>
          obtain ⟨rest, types?⟩ := listed
          refine .check (silent (.ok (rest, types?))) fun _ found => ?_
          cases found
          cases types? with
          | none => exact Run.follows_pure _
          | some types => exact (follows_buildTypes oneOfClause name context types).returns _

variable (interpreter) in
theorem follows_prepare (raw : Option Text) (comment : Text) (definition : Definition) :
    (interpreter.prepare raw comment ⟨definition, {}⟩).2.Follows
      (interpreter.stages raw comment definition) := by
  unfold prepare stages
  rw [Work.snd_aside_bind]
  refine .ask fun (context, name) resolved => ?_
  simp only [resolved, Work.snd_aside_bind, Work.snd_copyCaller_bind, Work.snd_handOut_bind,
    Work.snd_edit_bind, Run.mapError_call]
  refine .check (calls_checkLead name comment) fun _ _ => .ask fun (marked, block?) found => ?_
  rw [Error.mapError_eq_ok] at found
  simp only [found, textStages]
  refine (follows_readDefault name _).bind fun (text, value?) readDefault => ?_
  obtain ⟨rfl, -⟩ := readDefault_ok readDefault
  refine (follows_readShape name context _).bind fun (rest, shape) readShape => ?_
  obtain ⟨rfl, -⟩ := readShape_ok readShape
  exact .check (calls_checkDescription name _) fun _ _ => (Run.follows_call _ _).returns _

/-- No stage asks for a rendering. -/
def RendersNothing (stages : List Stage) : Prop :=
  ∀ stage ∈ stages, ∀ text, stage.call? ≠ some (.render text)

theorem rendersNothing_checks (outcome : Except Error α) {rest : List Stage}
    (plain : RendersNothing rest) : RendersNothing (checks outcome :: rest) :=
  List.forall_mem_cons.mpr ⟨fun _ same => (nomatch same), plain⟩

theorem rendersNothing_asks {call : Call} (outcome : Except Error α) {rest : List Stage}
    (other : ∀ text, call ≠ .render text) (plain : RendersNothing rest) :
    RendersNothing (asks call outcome :: rest) :=
  List.forall_mem_cons.mpr ⟨fun text same => other text (Option.some.inj same), plain⟩

theorem rendersNothing_append {stages rest : List Stage} (first : RendersNothing stages)
    (plain : RendersNothing rest) : RendersNothing (stages ++ rest) :=
  List.forall_mem_append.mpr ⟨first, plain⟩

theorem rendersNothing_nil : RendersNothing [] := fun _ member => nomatch member

theorem rendersNothing_typeStages (clause name context text : Text) :
    RendersNothing (interpreter.typeStages clause name context text) :=
  rendersNothing_asks _ nofun (rendersNothing_asks _ nofun rendersNothing_nil)

theorem rendersNothing_defaultStages (name : Text) (literal? : Option Text) :
    RendersNothing (interpreter.defaultStages name literal?) := by
  cases literal? with
  | none => exact rendersNothing_nil
  | some literal => exact rendersNothing_asks _ nofun rendersNothing_nil

theorem rendersNothing_shapeStages (name context text : Text) :
    RendersNothing (interpreter.shapeStages name context text) := by
  unfold shapeStages
  split
  · next type _ _ => exact rendersNothing_typeStages overrideClause name context type
  · refine rendersNothing_checks _ fun stage member => ?_
    obtain ⟨type, -, member⟩ := List.mem_flatMap.mp member
    exact rendersNothing_typeStages oneOfClause name context type stage member

/-- Where the first two collaborators answer, a rendering is the last stage and only that. -/
theorem exists_stages_eq {raw : Option Text} {comment context name : Text}
    {definition marked : Definition} {block? : Option Comment.EnumBlock}
    (resolved : interpreter.resolveReference raw = .ok (context, name))
    (found : interpreter.enumPass context definition comment = .ok (marked, block?)) :
    let whole := Comment.joinNonempty [' ']
      [Comment.described name ((block?.map (·.remaining)).getD comment),
        (block?.map (·.sentence)).getD []]
    ∃ front, interpreter.stages raw comment definition =
      front ++ [asks (.render whole) (interpreter.render whole)] ∧ RendersNothing front := by
  intro whole
  let comment' := (block?.map (·.remaining)).getD comment
  let extracted := Comment.extractDefault (Comment.stripTags comment')
  let front := interpreter.defaultStages name extracted.2 ++
    (interpreter.shapeStages name context extracted.1 ++
      [checks (interpreter.checkDescription name (Comment.described name comment')).outcome])
  have plain : RendersNothing front :=
    rendersNothing_append (rendersNothing_defaultStages name extracted.2)
      (rendersNothing_append (rendersNothing_shapeStages name context extracted.1)
        (rendersNothing_checks _ rendersNothing_nil))
  refine ⟨asks (.resolveReference raw) (interpreter.resolveReference raw) ::
    checks (interpreter.checkLead name comment).outcome ::
    asks (.enumPass context comment)
      ((interpreter.enumPass context definition comment).mapError (·.onField name)) :: front, ?_,
    rendersNothing_asks _ nofun (rendersNothing_checks _ (rendersNothing_asks _ nofun plain))⟩
  simp only [stages, resolved, found, textStages, front, List.cons_append, List.append_assoc]
  rfl

/-- A finished run asked at the end for a rendering of the finished description. -/
theorem getLast?_stages {raw : Option Text} {comment : Text} {definition work : Definition}
    {info : Meta}
    (finished : (interpreter.prepare raw comment).result ⟨definition, {}⟩ = .ok (work, info)) :
    (interpreter.stages raw comment definition).getLast? =
      some (asks (.render work.description) (interpreter.render work.description)) := by
  simp only [prepare, Work.result_aside_bind, Work.result_copyCaller_bind,
    Work.result_edit_bind, Work.result_handOut_bind, Work.result_pure] at finished
  obtain ⟨⟨context, name⟩, resolved, finished⟩ := Error.bind_eq_ok.mp finished
  obtain ⟨_, -, finished⟩ := Error.bind_eq_ok.mp finished
  obtain ⟨⟨marked, block?⟩, found, finished⟩ := Error.bind_eq_ok.mp finished
  obtain ⟨⟨text, value?⟩, readDefault, finished⟩ := Error.bind_eq_ok.mp finished
  obtain ⟨⟨rest, shape⟩, readShape, finished⟩ := Error.bind_eq_ok.mp finished
  obtain ⟨_, -, finished⟩ := Error.bind_eq_ok.mp finished
  obtain ⟨html, -, finished⟩ := Error.bind_eq_ok.mp finished
  obtain ⟨rfl, -⟩ := readDefault_ok readDefault
  obtain ⟨rfl, -⟩ := readShape_ok readShape
  have found := Error.mapError_eq_ok.mp found
  obtain ⟨front, same, -⟩ := exists_stages_eq resolved found
  rw [same, List.getLast?_concat, ← (Prod.mk.inj (Except.ok.inj finished)).1]
  rfl

theorem comment_of_checkLead {name comment : Text} {error : Error}
    (failed : (interpreter.checkLead name comment).outcome = .error error) :
    ∃ fault, error = .comment fault := by
  unfold checkLead at failed
  split at failed
  · cases failed
    exact ⟨_, rfl⟩
  · cases failed

theorem comment_of_checkDescription {name description : Text} {error : Error}
    (failed : (interpreter.checkDescription name description).outcome = .error error) :
    ∃ fault, error = .comment fault := by
  unfold checkDescription at failed
  split at failed
  · split at failed
    · cases failed
      exact ⟨_, rfl⟩
    · split at failed
      · cases failed
        exact ⟨_, rfl⟩
      · cases failed
  · cases failed

/-! ### What ends a run -/

theorem not_mem_calls {stages : List Stage} (plain : RendersNothing stages) (text : Text) :
    .render text ∉ Stage.calls stages := by
  intro member
  obtain ⟨stage, reached, same⟩ := List.mem_filterMap.mp member
  exact plain stage ((Stage.reached_prefix stages).subset reached) text same

theorem rendering_or_failing (raw : Option Text) (comment : Text) (definition : Definition) :
    let stages := interpreter.stages raw comment definition
    (∃ front whole, stages = front ++ [asks (.render whole) (interpreter.render whole)] ∧
        RendersNothing front) ∨
      RendersNothing stages ∧ Stage.failure? stages ≠ none := by
  intro stages
  cases resolved : interpreter.resolveReference raw with
  | error fault =>
      have same : stages = [asks (.resolveReference raw) (.error fault : Except Error Unit)] := by
        simp only [stages, Interpreter.stages, resolved]
        rfl
      rw [same]
      exact .inr ⟨rendersNothing_asks _ nofun rendersNothing_nil, nofun⟩
  | ok answer =>
      obtain ⟨context, name⟩ := answer
      cases found : interpreter.enumPass context definition comment with
      | error fault =>
          have same : stages = [asks (.resolveReference raw) (.ok (context, name)),
              checks (interpreter.checkLead name comment).outcome] ++
                [asks (.enumPass context comment)
                  (.error (fault.onField name) : Except Error Unit)] := by
            simp only [stages, Interpreter.stages, resolved, found]
            rfl
          refine .inr ⟨?_, ?_⟩
          · rw [same]
            exact rendersNothing_asks _ nofun (rendersNothing_checks _
              (rendersNothing_asks _ nofun rendersNothing_nil))
          · rw [same, Stage.failure?_append]
            simp [Stage.failure?, asks, Stage.errorOf]
      | ok marked =>
          obtain ⟨front, same, plain⟩ := exists_stages_eq resolved found
          exact .inl ⟨front, _, same, plain⟩

/-- A run gets to its end just where it gets to a rendering and that answers. -/
theorem failure?_stages_eq_none (raw : Option Text) (comment : Text) (definition : Definition) :
    Stage.failure? (interpreter.stages raw comment definition) = none ↔
      ∃ text html, .render text ∈ Stage.calls (interpreter.stages raw comment definition) ∧
        interpreter.render text = .ok html := by
  -- A rendering can only be asked for at the end, where all stages before it have passed.
  rcases interpreter.rendering_or_failing raw comment definition with
    ⟨front, whole, same, plain⟩ | ⟨plain, failing⟩
  · rw [same, Stage.failure?_append, Stage.calls]
    cases passed : Stage.failure? front with
    | none =>
        have last : Stage.failure? [asks (.render whole) (interpreter.render whole)] = none ↔
            ∃ html, interpreter.render whole = .ok html := by
          rw [← Stage.errorOf_eq_none]
          simp [Stage.failure?, asks]
        have asked : Stage.reached [asks (.render whole) (interpreter.render whole)] =
            [asks (.render whole) (interpreter.render whole)] := by
          cases interpreter.render whole <;> rfl
        have others (text : Text) : ¬ ∃ stage ∈ front, stage.call? = some (.render text) := by
          rintro ⟨stage, member, call⟩
          exact plain stage member text call
        rw [Option.none_or, last, Stage.reached_append_of_passing _ passed, asked]
        simp [others, asks]
    | some error =>
        have failing : Stage.failure? front ≠ none := by simp [passed]
        rw [Stage.reached_append_of_failing _ failing]
        refine iff_of_false (by simp) fun rendered => ?_
        obtain ⟨text, html, member, -⟩ := rendered
        exact not_mem_calls plain text member
  · refine iff_of_false failing fun rendered => ?_
    obtain ⟨text, html, member, -⟩ := rendered
    exact not_mem_calls plain text member

theorem failure?_defaultStages_eq_none (name : Text) (literal? : Option Text) :
    Stage.failure? (interpreter.defaultStages name literal?) = none ↔
      ∀ literal ∈ literal?, ∃ value, interpreter.parseLiteral literal = .ok value := by
  cases literal? with
  | none => simp [defaultStages, Stage.failure?]
  | some literal =>
      simp [defaultStages, Stage.failure?, asks, Stage.errorOf_eq_none, Error.mapError_eq_ok]

theorem isSome_call?_typeStages (clause name context text : Text) :
    ∀ stage ∈ interpreter.typeStages clause name context text, stage.call?.isSome := by
  simp [typeStages, asks]

theorem isSome_call?_defaultStages (name : Text) (literal? : Option Text) :
    ∀ stage ∈ interpreter.defaultStages name literal?, stage.call?.isSome := by
  simp [defaultStages, asks]

theorem not_declines_prose {name description whole text : Text} :
    ¬ Stage.Declines [checks (interpreter.checkDescription name description).outcome,
      asks (.render whole) (interpreter.render whole)] (.oneOfWithoutEntries text) := by
  rw [Stage.declines_checks, Stage.declines_asks]
  intro declines
  rcases declines with failed | ⟨-, -, declines⟩
  · obtain ⟨fault, same⟩ := comment_of_checkDescription failed
    cases same
  · exact Stage.not_declines_nil declines

theorem declines_shapeStages {name context description whole searched text : Text}
    (line : '\n' ∉ searched) :
    Stage.Declines (interpreter.shapeStages name context searched ++
        [checks (interpreter.checkDescription name description).outcome,
          asks (.render whole) (interpreter.render whole)]) (.oneOfWithoutEntries text) ↔
      (Comment.extractType searched).2 = none ∧ Comment.LacksEntries searched ∧
        text = searched := by
  unfold shapeStages Comment.typeClauses
  rcases extracted : Comment.extractType searched with ⟨rest, type?⟩
  cases type? with
  | some type =>
      rw [Stage.declines_append (isSome_call?_typeStages overrideClause name context type)]
      simp [not_declines_prose]
  | none =>
      cases Comment.extractType_none extracted
      have called (types : List Text) : ∀ stage ∈
          types.flatMap (interpreter.typeStages oneOfClause name context),
          stage.call?.isSome := by
        intro stage member
        obtain ⟨type, -, member⟩ := List.mem_flatMap.mp member
        exact isSome_call?_typeStages oneOfClause name context type stage member
      have declines (types? : Option (List Text)) :
          Stage.Declines ((checks (Comment.extractOneOf searched) ::
            (types?.getD []).flatMap (interpreter.typeStages oneOfClause name context)) ++
              [checks (interpreter.checkDescription name description).outcome,
                asks (.render whole) (interpreter.render whole)]) (.oneOfWithoutEntries text) ↔
            Comment.LacksEntries searched ∧ text = searched := by
        rw [List.cons_append, Stage.declines_checks, Stage.declines_append (called _),
          Comment.extractOneOf_eq_error_iff line]
        simp [not_declines_prose]
      dsimp only
      cases listed : Comment.extractOneOf searched with
      | error fault => simpa [listed] using declines none
      | ok found => simpa [listed] using declines found.2

variable (interpreter) in
/-- A run gets as far as the clauses about the type, for which it searches the text. -/
def ReachesTypes (raw : Option Text) (comment : Text) (definition : Definition) (text : Text) :
    Prop :=
  ∃ context name marked block?,
    interpreter.resolveReference raw = .ok (context, name) ∧
    (interpreter.checkLead name comment).outcome = .ok () ∧
    interpreter.enumPass context definition comment = .ok (marked, block?) ∧
    let extracted := Comment.extractDefault
      (Comment.stripTags ((block?.map (·.remaining)).getD comment))
    text = extracted.1 ∧
      ∀ literal ∈ extracted.2, ∃ value, interpreter.parseLiteral literal = .ok value

/-- What a run refuses though its collaborators have answered is the comment's list of types. -/
theorem declines_stages {raw : Option Text} {comment text : Text} {definition : Definition} :
    Stage.Declines (interpreter.stages raw comment definition) (.oneOfWithoutEntries text) ↔
      interpreter.ReachesTypes raw comment definition text ∧
        (Comment.extractType text).2 = none ∧ Comment.LacksEntries text := by
  unfold stages ReachesTypes
  cases interpreter.resolveReference raw with
  | error fault => simp [Stage.declines_asks]
  | ok answer =>
      obtain ⟨context, name⟩ := answer
      have lead : (interpreter.checkLead name comment).outcome ≠
          .error (.oneOfWithoutEntries text) := by
        intro failed
        obtain ⟨fault, same⟩ := comment_of_checkLead failed
        cases same
      dsimp only
      cases marking : interpreter.enumPass context definition comment with
      | error fault =>
          refine iff_of_false ?_ ?_
          · simp [Stage.declines_asks, Stage.declines_checks, lead, Except.mapError]
          · rintro ⟨⟨_, _, _, _, ⟨⟩, -, found, -⟩, -⟩
            exact nomatch marking.symm.trans found
      | ok found =>
          obtain ⟨marked, block?⟩ := found
          have line : '\n' ∉ (Comment.extractDefault
              (Comment.stripTags ((block?.map (·.remaining)).getD comment))).1 :=
            Comment.line_extract (Comment.line_stripTags _)
          simp only [Stage.declines_asks, Stage.declines_checks, textStages,
            Stage.declines_append (isSome_call?_defaultStages name _), declines_shapeStages line,
            failure?_defaultStages_eq_none, lead, Except.mapError, false_or]
          constructor
          · rintro ⟨-, ⟨⟨⟩, passed⟩, -, read, untyped, lacking, rfl⟩
            exact ⟨⟨context, name, marked, block?, rfl, passed, marking, rfl, read⟩, untyped,
              lacking⟩
          · rintro ⟨⟨_, _, _, _, ⟨⟩, passed, found, rfl, read⟩, untyped, lacking⟩
            cases marking.symm.trans found
            exact ⟨⟨_, rfl⟩, ⟨(), passed⟩, ⟨_, rfl⟩, read, untyped, lacking, rfl⟩

variable (interpreter) in
theorem follows_perform (raw : Option Text) (comment : Text) (definition : Definition) :
    (interpreter.perform raw comment ⟨definition, {}⟩).2.Follows
      (interpreter.stages raw comment definition) := by
  have follows := interpreter.follows_prepare raw comment definition
  rcases prepared : interpreter.prepare raw comment ⟨definition, {}⟩ with
    ⟨desk, outcome, calls⟩
  rw [prepared] at follows
  cases outcome with
  | ok info => rwa [perform_of_prepare_ok prepared]
  | error error => rwa [perform_of_prepare_error prepared]

variable (interpreter) in
theorem getLast?_calls_perform (raw : Option Text) (comment : Text) (definition : Definition)
    (info : Meta) :
    let (desk, run) := interpreter.perform raw comment ⟨definition, {}⟩
    run.outcome = .ok info → run.calls.getLast? = some (.render desk.caller.description) := by
  have follows := interpreter.follows_prepare raw comment definition
  rcases prepared : interpreter.prepare raw comment ⟨definition, {}⟩ with
    ⟨desk, outcome, calls⟩
  rw [prepared] at follows
  obtain ⟨made, failure⟩ := follows
  cases outcome with
  | ok found =>
      rw [perform_of_prepare_ok prepared]
      intro _
      have finished : (interpreter.prepare raw comment).result ⟨definition, {}⟩ =
          .ok (desk.work, found) := by
        rw [Work.result, prepared]
        rfl
      obtain ⟨front, same⟩ := List.getLast?_eq_some_iff.mp (getLast?_stages finished)
      have made : calls = Stage.calls (interpreter.stages raw comment definition) := made
      rw [made, Stage.calls, Stage.reached_of_passing failure.symm, same]
      simp [asks]
  | error error =>
      rw [perform_of_prepare_error prepared]
      intro finished
      cases finished

/-- The calls of a run are those of its stages, up to and with the first stage that does not
pass, whose error it ends with.  It finishes just where it gets to a rendering and that
answers, and then the rendering was its last call and was of the description that is taken
over.  When its collaborators have all answered, the comment's list of types is what it refuses
just where it gets to the types, finds no override and sees a list begin without an entry. -/
theorem perform_goes_through_stages (interpreter : Interpreter) (raw : Option Text)
    (comment : Text) (definition : Definition) :
    let stages := interpreter.stages raw comment definition
    let (desk, run) := interpreter.perform raw comment ⟨definition, {}⟩
    run.calls <+: stages.filterMap (·.call?) ∧
      run.calls = (Stage.reached stages).filterMap (·.call?) ∧
      Stage.errorOf run.outcome = stages.findSome? (·.error?) ∧
      ((∃ info, run.outcome = .ok info) ↔
        ∃ text html, .render text ∈ run.calls ∧ interpreter.render text = .ok html) ∧
      (∀ info, run.outcome = .ok info →
        run.calls.getLast? = some (.render desk.caller.description)) ∧
      ∀ text,
        (run.outcome = .error (.oneOfWithoutEntries text) ∧
            ∀ stage ∈ Stage.reached stages, stage.call?.isSome → stage.error? = none) ↔
          interpreter.ReachesTypes raw comment definition text ∧
            (Comment.extractType text).2 = none ∧ Comment.LacksEntries text := by
  have follows := interpreter.follows_perform raw comment definition
  have last := interpreter.getLast?_calls_perform raw comment definition
  rcases performed : interpreter.perform raw comment ⟨definition, {}⟩ with ⟨desk, run⟩
  rw [performed] at follows
  simp only [performed] at last
  intro stages
  obtain ⟨calls, failure⟩ : run.calls = Stage.calls stages ∧
    Stage.errorOf run.outcome = Stage.failure? stages := follows
  refine ⟨?_, calls, failure, ?_, last, fun text => ?_⟩
  · rw [calls, Stage.calls]
    exact (Stage.reached_prefix stages).filterMap _
  · rw [← Stage.errorOf_eq_none, failure, calls]
    exact failure?_stages_eq_none raw comment definition
  · rw [← Stage.errorOf_eq_some, failure]
    exact declines_stages

/-- Where there is an override, a list of types in front of it is not asked about. -/
theorem perform_goes_through_stages_listedBeforeOverride :
    let (desk, run) :=
      (standard {} false).perform (some "A".toList) listedBeforeOverride ⟨{}, {}⟩
    run.outcome = .ok { noDerive := true } ∧
      run.calls = [.resolveReference (some "A".toList), .enumPass [] listedBeforeOverride,
        .parseType "str".toList, .buildNode "A".toList [] false,
        .render "x. Schema type is one of \x60int\x60.".toList] ∧
      run.calls.getLast? = some (.render desk.caller.description) := by
  have through := perform_goes_through_stages (standard {} false) (some "A".toList)
    listedBeforeOverride {}
  exact ⟨by decide +kernel, by decide +kernel,
    through.2.2.2.2.1 { noDerive := true } (by decide +kernel)⟩

end Interpreter

end CommentSchema
