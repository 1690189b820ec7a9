import CommentSchema.Markdown.Mark
import CommentSchema.Text.Decimal

/-! What a line of a document can begin: headings, rules, items of lists and quotations.
Markup may be indented by up to three spaces; four spaces make a line part of something else. -/

namespace CommentSchema.Markdown.Line

def indentWidth : Nat := 4

/-- The line without its indentation, which is smaller than that of a block. -/
def unindented? (line : Marks) : Option Marks :=
  if Marks.indent line < indentWidth then some (line.drop (Marks.indent line)) else none

def isIndented (line : Marks) : Bool := indentWidth ≤ Marks.indent line

/-- The text of a heading without the number signs that close it; a backslash takes the
next character with it and cannot stand last. -/
def headingText? : Marks → Option Marks
  | [] => some []
  | [mark] => if mark.is '\\' then none else if mark.is '#' then some [] else some [mark]
  | mark :: next :: rest =>
      if mark.is '\\' then (headingText? rest).map fun kept => mark :: next :: kept
      else
        match headingText? (next :: rest) with
        | some [] => if mark.is '#' then some [] else some [mark]
        | some kept => some (mark :: kept)
        | none => none

def heading? (line : Marks) : Option (Nat × Marks) :=
  let level := min 6 (line.takeWhile (Mark.is '#')).length
  if level = 0 then none
  else (headingText? (line.drop level)).map fun text => (level, Marks.trim text)

def underline? : Marks → Option Nat
  | [] => none
  | sign :: rest =>
      if !(sign.is '=' || sign.is '-') then none
      else if (rest.dropWhile (· == sign)).all (Mark.is ' ') then
        some (if sign.is '=' then 1 else 2)
      else none

/-- At least three of one sign, with at most two spaces between one and the next. -/
def isRuleOf (sign : Char) : Nat → Nat → Marks → Bool
  | _, count, [] => 3 ≤ count
  | gap, count, mark :: rest =>
      if mark.is sign then isRuleOf sign 0 (count + 1) rest
      else if !mark.is ' ' then false
      else if gap < 2 then isRuleOf sign (gap + 1) count rest
      else 3 ≤ count && rest.all (Mark.is ' ')

def isRule (line : Marks) : Bool :=
  match unindented? line with
  | some (mark :: rest) =>
      ['-', '_', '*'].any fun sign => mark.is sign && isRuleOf sign 0 0 (mark :: rest)
  | _ => false

private def isDecimal : Mark → Bool
  | .plain c => Text.isDecimal c
  | _ => false

private def isBullet (mark : Mark) : Bool := mark.is '*' || mark.is '+' || mark.is '-'

private def afterSign? (rest : Marks) : Option Marks :=
  if Marks.indent rest = 0 then none else some (rest.drop (Marks.indent rest))

def numbered? (line : Marks) : Option Marks :=
  let digits := line.takeWhile isDecimal
  match digits, line.drop digits.length with
  | _ :: _, point :: rest => if point.is '.' then afterSign? rest else none
  | _, _ => none

def bulleted? : Marks → Option Marks
  | sign :: rest => if isBullet sign then afterSign? rest else none
  | [] => none

def numberedItem? (line : Marks) : Option Marks := (unindented? line).bind numbered?

def bulletedItem? (line : Marks) : Option Marks := (unindented? line).bind bulleted?

def item? (line : Marks) : Option Marks :=
  match numberedItem? line with
  | some text => some text
  | none => bulletedItem? line

def isNestedItem (line : Marks) : Bool :=
  let indent := Marks.indent line
  let rest := line.drop indent
  indentWidth ≤ indent && indent < 2 * indentWidth
    && ((numbered? rest).isSome || (bulleted? rest).isSome)

def quoted? (line : Marks) : Option Marks :=
  match unindented? line with
  | some (mark :: rest) =>
      if !mark.is '>' then none
      else
        match rest with
        | space :: after => if space.is ' ' then some after else some (space :: after)
        | [] => some []
  | _ => none

/-- The first line that has a property: the lines before it, what was found and the lines
after it. -/
def split? (find : Marks → Option α) : List Marks → Option (List Marks × α × List Marks)
  | [] => none
  | line :: rest =>
      match find line with
      | some found => some ([], found, rest)
      | none => (split? find rest).map fun (before, found, after) => (line :: before, found, after)

end CommentSchema.Markdown.Line
