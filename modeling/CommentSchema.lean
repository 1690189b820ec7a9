import CommentSchema.Batch
import CommentSchema.Binary64
import CommentSchema.Binary64.Shortest
import CommentSchema.Builder
import CommentSchema.Comment.Clause
import CommentSchema.Comment.EnumBlock
import CommentSchema.Comment.Paraphrase
import CommentSchema.Comment.Tags
import CommentSchema.Config.Level
import CommentSchema.Config.Merge
import CommentSchema.Config.Settings
import CommentSchema.Definition.Adopt
import CommentSchema.Definition.Basic
import CommentSchema.Definition.Field
import CommentSchema.Definition.Keywords
import CommentSchema.Definition.Path
import CommentSchema.Definition.Schema
import CommentSchema.Error
import CommentSchema.Expr.Basic
import CommentSchema.Expr.Escape
import CommentSchema.Expr.Lexer
import CommentSchema.Expr.Parser
import CommentSchema.Expr.Printer
import CommentSchema.Expr.Token
import CommentSchema.Interpreter
import CommentSchema.Json.Reader
import CommentSchema.Json.Writer
import CommentSchema.Literal
import CommentSchema.Literal.Writer
import CommentSchema.Markdown.Block
import CommentSchema.Markdown.Element
import CommentSchema.Markdown.EntityName
import CommentSchema.Markdown.Html
import CommentSchema.Markdown.Inline
import CommentSchema.Markdown.Inline.Emphasis
import CommentSchema.Markdown.Inline.Glyph
import CommentSchema.Markdown.Inline.Link
import CommentSchema.Markdown.Inline.Literal
import CommentSchema.Markdown.Line
import CommentSchema.Markdown.Mark
import CommentSchema.Markdown.Paragraph
import CommentSchema.Markdown.RawBlock
import CommentSchema.Markdown.Render
import CommentSchema.Markdown.Source
import CommentSchema.Markdown.Target
import CommentSchema.Markdown.Writer
import CommentSchema.Proofs.Arrangement
import CommentSchema.Proofs.Atomicity
import CommentSchema.Proofs.Breakage
import CommentSchema.Proofs.Change
import CommentSchema.Proofs.Clause
import CommentSchema.Proofs.ClauseOrder
import CommentSchema.Proofs.Escape
import CommentSchema.Proofs.First
import CommentSchema.Proofs.Isolation
import CommentSchema.Proofs.Members
import CommentSchema.Proofs.Noninterference
import CommentSchema.Proofs.Overflow
import CommentSchema.Proofs.Reading
import CommentSchema.Proofs.Residue
import CommentSchema.Proofs.RoundTrip
import CommentSchema.Proofs.Scan
import CommentSchema.Proofs.Sequence
import CommentSchema.Proofs.Strictness
import CommentSchema.Proofs.Text.Erasure
import CommentSchema.Proofs.Text.Occurrence
import CommentSchema.Proofs.Text.Trimming
import CommentSchema.Proofs.Written
import CommentSchema.Reference
import CommentSchema.Report
import CommentSchema.Text.Basic
import CommentSchema.Text.Blank
import CommentSchema.Text.Case
import CommentSchema.Text.Cased
import CommentSchema.Text.Decimal
import CommentSchema.Text.Digits
import CommentSchema.Text.Identifier
import CommentSchema.Text.Normal
import CommentSchema.Text.Normal.Canonical
import CommentSchema.Text.Normal.Compatible
import CommentSchema.Text.Normal.Marks
import CommentSchema.Text.Printable
import CommentSchema.Text.Punctuation
import CommentSchema.Text.Quoted
import CommentSchema.Text.Ranges
import CommentSchema.Text.Word
import CommentSchema.TypeExpr
import CommentSchema.Value
import CommentSchema.Proofs.Inlining
import CommentSchema.Proofs.StatedDefault
import CommentSchema.Proofs.MarkerLine
import CommentSchema.Proofs.Payload
import CommentSchema.Proofs.Shape
import CommentSchema.Proofs.SchemaRoundTrip
import CommentSchema.Proofs.Precedence
import CommentSchema.Proofs.Forward
import CommentSchema.Proofs.Stage
import CommentSchema.Proofs.Protocol
import CommentSchema.Proofs.Union
import CommentSchema.Proofs.Openness
import CommentSchema.Proofs.Visit
import CommentSchema.Proofs.Context
import CommentSchema.Proofs.DataValues
import CommentSchema.Proofs.Text.Numeral
import CommentSchema.Proofs.Json.Text
import CommentSchema.Proofs.Literal.Plain
import CommentSchema.Proofs.Json.Written
import CommentSchema.Proofs.Expr.Token
import CommentSchema.Proofs.Literal.Lexed
import CommentSchema.Proofs.Expr.Atom
import CommentSchema.Proofs.Literal.Parsed
import CommentSchema.Proofs.Literal.RoundTrip
import CommentSchema.Proofs.Json.Limit
import CommentSchema.Proofs.Literal.Refusal
import CommentSchema.Proofs.EnumBlock
import CommentSchema.Config.Overrides
import CommentSchema.Proofs.SelfContained
import CommentSchema.Proofs.PlainComment
import CommentSchema.Proofs.Collapsed
import CommentSchema.Proofs.Attribution
import CommentSchema.Proofs.Text.NormalForm
import CommentSchema.Proofs.Reference
import CommentSchema.Proofs.Paraphrase
import CommentSchema.Proofs.Description
import CommentSchema.Comment.Grammar
import CommentSchema.Proofs.Text.Pattern
import CommentSchema.Proofs.LastClause
import CommentSchema.Proofs.EntryRun
import CommentSchema.Proofs.ListSearch
import CommentSchema.Proofs.TagLines
import CommentSchema.Proofs.Rereading
