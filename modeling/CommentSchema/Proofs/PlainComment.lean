import CommentSchema.Proofs.EnumBlock
import CommentSchema.Proofs.Payload

/-! Plain comments.  A comment without an enum block in which no clause has its lead says nothing
but its prose: the description becomes the prose without the name, and the rest of the definition
is as before.  A description that nothing more can be taken from is read as itself. -/

namespace CommentSchema

namespace Comment

def leads : List Text := [defaultLead, typeLead, exampleLead, oneOfLead]

/-- A description in which a further run for the same field finds nothing to take out. -/
structure Settled (name description : Text) : Prop where
  trimmed : Text.trim description = description
  unmarked : ∀ mark ∈ marks, ¬ mark <:+: description
  noMarker : description ≠ requiredWord
  noHeader : EnumBlock.isHeader description = false
  unnamed : ¬ name ++ [' '] <+: description

theorem leadless_removeName {name text : Text} (leadless : ∀ lead ∈ leads, ¬ lead <:+: text) :
    ∀ lead ∈ leads, ¬ lead <:+: removeName name text := by
  have keeps : ∀ lead ∈ leads, Text.keepsOut lead ['*', ' '] := by decide
  intro lead member found
  exact leadless lead member (infix_of_removeName (keeps lead member) found)

namespace Settled

variable {name description : Text}

theorem isMarker_eq (settled : Settled name description) : isMarker description = false := by
  have notMark : ∀ mark ∈ marks, description ≠ mark := fun mark member same =>
    settled.unmarked mark member (same ▸ List.infix_rfl)
  simp only [marks, List.forall_mem_cons] at notMark
  simp [isMarker, demandsField, notMark, settled.noMarker]

theorem isRequired_eq (settled : Settled name description) (line : '\n' ∉ description) :
    isRequired description = false := by
  have kept := settled.isMarker_eq
  rw [isMarker, Bool.or_eq_false_iff] at kept
  rw [isRequired_of_line line, kept.1]

theorem stripTags_eq (settled : Settled name description) (line : '\n' ∉ description) :
    stripTags description = description := by
  rw [stripTags_of_line line settled.isMarker_eq, ← unmark, unmark_of_unmarked settled.unmarked,
    settled.trimmed]

theorem find_eq (settled : Settled name description) (line : '\n' ∉ description) :
    EnumBlock.find description = .ok none := by
  rw [EnumBlock.find_eq_none_iff, Text.lines, Text.split_of_not_mem line]
  exact List.forall_mem_singleton.mpr settled.noHeader

theorem removeName_eq (settled : Settled name description) :
    removeName name description = description := by
  rw [removeName, Text.isPrefixOf?_eq_none settled.unnamed]
  split <;> rfl

end Settled

end Comment

namespace Reading

/-- The reading of a comment that is nothing but a description. -/
def plain (description : Text) (required : Bool) : Reading where
  values? := none
  default? := none
  shape := .declared
  example? := none
  description := description
  htmlDescription := Markdown.stripParagraphTags (Markdown.render description)
  required := required

theorem enter_plain (description : Text) (required : Bool) (definition : Definition) :
    (plain description required).enter definition =
      { definition with
        description := description
        htmlDescription := Markdown.stripParagraphTags (Markdown.render description) } := by
  simp [plain, enter, Shape.apply]

end Reading

namespace Interpreter

open Comment (Settled)

section

variable [Dialect] {builder : Builder} {raw : Option Text} {comment : Text}

theorem reading_plain {context name : Text} (resolves : Reference.interpret raw = (context, name))
    (blockless : Comment.EnumBlock.find comment = .ok none)
    (leadless : ∀ lead ∈ Comment.leads, ¬ lead <:+: Comment.stripTags comment) :
    (standard builder false).reading raw comment =
      .ok (.plain (Comment.removeName name (Comment.stripTags comment))
        (Comment.isRequired comment)) := by
  have line := Comment.line_stripTags comment
  simp only [Comment.leads, List.forall_mem_cons] at leadless
  obtain ⟨noDefault, noType, noExample, noList, -⟩ := leadless
  have unsampled : Comment.extractExample (Comment.stripTags comment) = (_, none) :=
    Comment.extract_absent line noExample
  rw [reading_of_blockless blockless resolves,
    readDefault_of_absent (Comment.extract_absent line noDefault)]
  simp only [Error.ok_bind, unsampled, readShape_of_absent (Comment.extract_absent line noType)
    (Comment.extractOneOf_absent line noList)]
  rfl

theorem annotate_of_leadless (builder : Builder) (raw : Option Text) (definition : Definition)
    (blockless : Comment.EnumBlock.find comment = .ok none)
    (leadless : ∀ lead ∈ Comment.leads, ¬ lead <:+: Comment.stripTags comment) :
    let described := Comment.removeName (Reference.interpret raw).2 (Comment.stripTags comment)
    (standard builder false).annotate raw comment definition =
      ({ definition with
          description := described
          htmlDescription := Markdown.stripParagraphTags (Markdown.render described) },
        .ok { required := Comment.isRequired comment, noDerive := false }) := by
  intro described
  rw [annotate_eq _ raw comment rfl, reading_plain rfl blockless leadless]
  exact congrArg (·, _) (Reading.enter_plain described _ definition)

/-- A comment without an enum header and without the lead of a clause describes its field and
does nothing else.  Where nothing more can be taken out of the description, it is read as
itself. -/
theorem annotate_plain (builder : Builder) (raw : Option Text) (definition : Definition)
    {comment : Text}
    (headerless : ∀ line ∈ Text.lines comment, Comment.EnumBlock.isHeader line = false)
    (leadless : ∀ lead ∈ Comment.leads, ¬ lead <:+: Comment.stripTags comment) :
    let name := (Reference.interpret raw).2
    let described := Comment.removeName name (Comment.stripTags comment)
    let html := Markdown.stripParagraphTags (Markdown.render described)
    (standard builder false).annotate raw comment definition =
        ({ definition with description := described, htmlDescription := html },
          .ok { required := Comment.isRequired comment, noDerive := false }) ∧
      (Settled name described → ∀ later : Definition,
        (standard builder false).annotate raw described later =
          ({ later with description := described, htmlDescription := html },
            .ok { required := false, noDerive := false })) := by
  intro name described html
  have blockless := Comment.EnumBlock.find_eq_none_iff.mpr headerless
  refine ⟨annotate_of_leadless builder raw definition blockless leadless, fun settled later => ?_⟩
  have line : '\n' ∉ described := Comment.line_removeName (Comment.line_stripTags comment)
  have same := settled.stripTags_eq line
  have free : ∀ lead ∈ Comment.leads, ¬ lead <:+: Comment.stripTags described := by
    rw [same]
    exact Comment.leadless_removeName leadless
  have again := annotate_of_leadless builder raw later (settled.find_eq line) free
  rw [same, settled.isRequired_eq line] at again
  rw [again, settled.removeName_eq]

end

def requiredBar : Text := "Foo is the bar.\n+required\nSee Defaults to.".toList

theorem annotate_plain_requiredBar :
    (∀ line ∈ Text.lines requiredBar, Comment.EnumBlock.isHeader line = false) ∧
      (∀ lead ∈ Comment.leads, ¬ lead <:+: Comment.stripTags requiredBar) ∧
      Settled "Foo".toList "bar. See Defaults to.".toList ∧
      (standard {} false).annotate (some "pkg.Foo".toList) requiredBar { enum := some [] } =
        ({ enum := some []
           description := "bar. See Defaults to.".toList
           htmlDescription := "bar. See Defaults to.".toList }, .ok { required := true }) ∧
      (standard {} false).annotate (some "pkg.Foo".toList) "bar. See Defaults to.".toList {} =
        ({ description := "bar. See Defaults to.".toList
           htmlDescription := "bar. See Defaults to.".toList }, .ok {}) := by
  have headerless : ∀ line ∈ Text.lines requiredBar, Comment.EnumBlock.isHeader line = false := by
    decide
  have leadless : ∀ lead ∈ Comment.leads, ¬ lead <:+: Comment.stripTags requiredBar := by decide
  have described : Comment.removeName "Foo".toList (Comment.stripTags requiredBar) =
      "bar. See Defaults to.".toList := by decide
  have html : Markdown.stripParagraphTags (Markdown.render "bar. See Defaults to.".toList) =
      "bar. See Defaults to.".toList := by decide +kernel
  have settled : Settled "Foo".toList "bar. See Defaults to.".toList :=
    ⟨by decide, by decide, by decide, by decide, by decide⟩
  have name : (Reference.interpret (some "pkg.Foo".toList)).2 = "Foo".toList := by decide
  have read := annotate_plain {} (some "pkg.Foo".toList) { enum := some [] } headerless leadless
  simp only [name, described, html] at read
  exact ⟨headerless, leadless, settled, read.1, read.2 settled {}⟩

end Interpreter

end CommentSchema
