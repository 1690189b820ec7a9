import CommentSchema.Markdown.Block
import CommentSchema.Markdown.Inline
import CommentSchema.Markdown.RawBlock
import CommentSchema.Markdown.Source
import CommentSchema.Markdown.Writer

/-! Markdown written as HTML. -/

namespace CommentSchema.Markdown

def render (text : Text) : Text :=
  if Text.isAllBlank text then []
  else
    let source := RawBlock.extract (Source.normalize text)
    let (document, targets) := Block.read source
    Writer.writeDocument (Inline.search source.length document targets)

end CommentSchema.Markdown
