import CommentSchema.Text.Blank
import CommentSchema.Text.Word

/-! Marked-up text is a list of marks: plain characters, characters that a backslash has
freed from any meaning, and pieces of finished HTML.  Only a plain character can be part of
markup. -/

namespace CommentSchema.Markdown

inductive Mark where
  | plain (c : Char)
  | escaped (c : Char)
  | raw (html : Text)
deriving DecidableEq, Repr

abbrev Marks := List Mark

namespace Mark

def is (c : Char) : Mark → Bool
  | plain d => c == d
  | _ => false

@[simp] theorem is_plain (c d : Char) : (plain d).is c = (c == d) := rfl

def isBlank : Mark → Bool
  | plain c => Text.isBlank c
  | _ => false

def char? : Mark → Option Char
  | plain c | escaped c => some c
  | raw _ => none

end Mark

namespace Marks

def ofText (text : Text) : Marks := text.map .plain

def toText? : Marks → Option Text
  | [] => some []
  | .plain c :: rest => (toText? rest).map (c :: ·)
  | _ => none

@[simp] theorem toText?_ofText (text : Text) : toText? (ofText text) = some text := by
  induction text with
  | nil => rfl
  | cons c rest ih =>
      simp only [ofText, List.map_cons, toText?]
      rw [show rest.map Mark.plain = ofText rest from rfl, ih]
      rfl

def newline : Mark := .plain '\n'

/-- The lines of a text; there is always at least one. -/
def lines : Marks → List Marks
  | [] => [[]]
  | mark :: rest =>
      if mark.is '\n' then [] :: lines rest
      else
        match lines rest with
        | [] => [[mark]]
        | line :: others => (mark :: line) :: others

def unlines : List Marks → Marks
  | [] => []
  | [line] => line
  | line :: others => line ++ newline :: unlines others

/-- The pieces between pairs of line ends, pairs being found from the left. -/
def blocks : Marks → List Marks
  | [] => [[]]
  | [mark] => [[mark]]
  | first :: second :: rest =>
      if first.is '\n' && second.is '\n' then [] :: blocks rest
      else
        match blocks (second :: rest) with
        | [] => [[first]]
        | block :: others => (first :: block) :: others

def trimLeft (marks : Marks) : Marks := marks.dropWhile Mark.isBlank

def trimRight : Marks → Marks
  | [] => []
  | mark :: rest =>
      match trimRight rest with
      | [] => if mark.isBlank then [] else [mark]
      | kept => mark :: kept

def trim (marks : Marks) : Marks := trimRight (trimLeft marks)

def isAllBlank (marks : Marks) : Bool := marks.all Mark.isBlank

def dropNewlines (marks : Marks) : Marks := marks.dropWhile (Mark.is '\n')

def trimRightNewlines : Marks → Marks
  | [] => []
  | mark :: rest =>
      match trimRightNewlines rest with
      | [] => if mark.is '\n' then [] else [mark]
      | kept => mark :: kept

def indent (marks : Marks) : Nat := (marks.takeWhile (Mark.is ' ')).length

def unindent? (count : Nat) (marks : Marks) : Option Marks :=
  if count ≤ indent marks then some (marks.drop count) else none

end Marks

end CommentSchema.Markdown
