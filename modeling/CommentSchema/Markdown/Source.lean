import CommentSchema.Text.Basic

/-! The source of a document made even: one way to end lines, spaces for tabs, nothing in
lines that hold only spaces, and an empty line at the end. -/

namespace CommentSchema.Markdown.Source

def tabWidth : Nat := 4

/-- Spaces up to the next tab stop, `column` counting from the start of the line. -/
def expandTabs : Nat → Text → Text
  | _, [] => []
  | column, c :: rest =>
      if c == '\t' then
        let width := tabWidth - column % tabWidth
        List.replicate width ' ' ++ expandTabs (column + width) rest
      else if c == '\n' then c :: expandTabs 0 rest
      else c :: expandTabs (column + 1) rest

/-- Characters that mark the start and the end of a text are no part of a document. -/
def isControl (c : Char) : Bool := c == '\x02' || c == '\x03'

private def clearLine (line : Text) : Text := if line.all (· == ' ') then [] else line

/-- Every line but the first is cleared if it holds only spaces. -/
def clearLines (text : Text) : Text :=
  match Text.lines text with
  | [] => []
  | first :: others => Text.unlines (first :: others.map clearLine)

def normalize (text : Text) : Text :=
  let kept := text.filter fun c => !isControl c
  clearLines (expandTabs 0 (Text.normalizeLines kept ++ ['\n', '\n']))

end CommentSchema.Markdown.Source
