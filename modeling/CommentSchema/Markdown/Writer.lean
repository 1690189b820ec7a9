import CommentSchema.Markdown.Element
import CommentSchema.Markdown.Html

/-! Documents written as HTML.  Blocks stand on lines of their own, and a line break is
followed by the end of its line. -/

namespace CommentSchema.Markdown.Writer

/-- Characters are escaped together as far as no finished HTML stands between them. -/
def writeMarks (escape : Text → Text) (marks : Marks) : Text :=
  let (run, rest) := marks.foldr
    (fun mark (run, rest) =>
      match mark with
      | .plain c | .escaped c => (c :: run, rest)
      | .raw html => ([], html ++ (escape run ++ rest))) ([], [])
  escape run ++ rest

def writeText (marks : Marks) : Text := writeMarks Html.escape marks

def writeAttribute : Text × Marks → Text
  | (name, value) =>
      ' ' :: name ++ '=' :: '\x22' :: writeMarks Html.escapeAttribute value ++ ['\x22']

def newlineIfBlank (marks : Marks) : Marks :=
  if Marks.isAllBlank marks then [Marks.newline] else marks

/-- The text after a child: blocks end their lines, and so do line breaks. -/
def textAfter (tag : Tag) (after : Marks) : Marks :=
  if tag.isBlock then newlineIfBlank after
  else if tag == .lineBreak then
    if Marks.isAllBlank after then [Marks.newline] else Marks.newline :: after
  else after

/-- The text that an element begins with.  A block goes to a line of its own, and code in a
block of its own ends with one line end. -/
def textBefore (parent : Tag) (element : Element) : Marks :=
  match element.children with
  | (child, _) :: _ =>
      if element.tag.isBlock && child.tag.isBlock && element.tag != .preformatted then
        newlineIfBlank element.text
      else element.text
  | [] =>
      if element.tag == .code && parent == .preformatted then
        Marks.trimRight element.text ++ [Marks.newline]
      else element.text

/-- A paragraph that is nothing but one block of HTML is no paragraph. -/
def soleBlock? (element : Element) : Option Text :=
  match element.tag, element.text, element.children with
  | .paragraph, [.raw html], [] => if Html.isBlock html then some html else none
  | _, _, _ => none

mutual
def write (parent : Tag) (element : Element) : Text :=
  match element with
  | ⟨tag, attributes, verbatim, text, children⟩ =>
      match soleBlock? ⟨tag, attributes, verbatim, text, children⟩ with
      | some html => html
      | none =>
          let opening := '<' :: tag.name ++ attributes.flatMap writeAttribute
          if tag.isVoid then opening ++ " />".toList
          else
            opening
              ++ '>' :: writeText (textBefore parent ⟨tag, attributes, verbatim, text, children⟩)
              ++ writeChildren tag children ++ '<' :: '/' :: tag.name ++ ['>']
termination_by structural element

def writeChildren (parent : Tag) (children : List (Element × Marks)) : Text :=
  match children with
  | [] => []
  | (child, after) :: rest =>
      write parent child ++ writeText (textAfter child.tag after) ++ writeChildren parent rest
termination_by structural children
end

def writeDocument (document : Element) : Text :=
  Text.trim (writeChildren .document document.children)

end CommentSchema.Markdown.Writer
