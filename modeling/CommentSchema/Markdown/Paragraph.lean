import CommentSchema.Text.Blank

/-! Paragraph tags, which a description of one paragraph does without. -/

namespace CommentSchema.Markdown

private def dropTags : Nat → Text → Text
  | _, [] => []
  | skip + 1, _ :: rest => dropTags skip rest
  | 0, c :: rest =>
      if "<p>".toList.isPrefixOf (c :: rest) then dropTags 2 rest
      else if "</p>".toList.isPrefixOf (c :: rest) then dropTags 3 rest
      else c :: dropTags 0 rest

def stripParagraphTags (html : Text) : Text := Text.trim (dropTags 0 html)

end CommentSchema.Markdown
