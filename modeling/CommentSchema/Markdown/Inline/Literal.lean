import CommentSchema.Markdown.Block
import CommentSchema.Markdown.Inline.Glyph
import CommentSchema.Markdown.Writer

/-! Text that is taken literally: code, escaped characters and HTML; and line breaks. -/

namespace CommentSchema.Markdown.Inline

private def backtick : Char := '\x60'

private def isBacktick (glyph : Glyph) : Bool := glyph.is backtick

private def isBackslash (glyph : Glyph) : Bool := glyph.is '\\'

/-- Backslashes in pairs before a backtick are each an escaped backslash. -/
private def backslashes? (glyphs : Glyphs) : Option Found :=
  let count := (glyphs.takeWhile isBackslash).length
  let next := (glyphs.drop count).head?
  if count != 0 && count % 2 == 0 && Glyphs.isChar backtick next then
    some (.seal (List.replicate (count / 2) (.escaped '\\')) count)
  else none

/-- The glyphs up to the first run of exactly `count` backticks; there has to be one glyph. -/
private def toClosing? (count : Nat) : Option Glyph → Nat → Glyphs → Option Glyphs
  | _, _, [] => none
  | last, taken, glyph :: rest =>
      if taken != 0 && !Glyphs.isChar backtick last
          && ((glyph :: rest).takeWhile isBacktick).length == count then
        some []
      else (toClosing? count (some glyph) (taken + 1) rest).map (glyph :: ·)

/-- Whether a number of backticks can open code.  One of them can if it stands alone or
between others. -/
private def mayOpen (last : Option Glyph) (rest : Glyphs) (count : Nat) : Bool :=
  count != 1 || Glyphs.isChar backtick last == Glyphs.isChar backtick rest.head?

/-- Code between runs of equally many backticks, `count` at most. -/
private def codeBetween? (last : Option Glyph) (glyphs : Glyphs) : Nat → Option Found
  | 0 => none
  | count + 1 =>
      let rest := glyphs.drop (count + 1)
      let inside? :=
        if mayOpen last rest (count + 1) then
          toClosing? (count + 1) (some (.mark (.plain backtick))) 0 rest
        else none
      match inside? with
      | some inside =>
          let text := Block.codeMarks (Glyphs.toMarks (Glyphs.trim inside))
          some (.draft { tag := .code, verbatim := true, text := Glyphs.ofMarks text }
            (inside.length + 2 * (count + 1)))
      | none => codeBetween? last glyphs count

def code? : Search := fun last glyphs =>
  if Glyphs.isChar '\\' last then none
  else
    match backslashes? glyphs with
    | some found => some found
    | none => codeBetween? last glyphs (glyphs.takeWhile isBacktick).length

def escapable : List Char := "\\\x60*_\x7b\x7d[]()>#+-.!".toList

/-- A backslash frees the next character if that can be markup. -/
def escape? : Search := fun _ glyphs =>
  match glyphs with
  | first :: second :: _ =>
      if !first.is '\\' then none
      else
        match second.char? with
        | some c => if escapable.contains c then some (.seal [.escaped c] 2) else some (.skip 2)
        | none => some (.skip 2)
  | _ => none

def lineBreak? : Search := fun _ glyphs =>
  (Glyphs.after? [' ', ' ', '\n'] glyphs).map fun _ => .draft { tag := .lineBreak } 3

/-- Marks inside of HTML are written as they were. -/
private def sourceOf (glyphs : Glyphs) : Text :=
  glyphs.flatMap fun
    | .mark mark => markText mark
    | .sealed marks => '\\' :: marks.flatMap markText
    | .element element => Writer.write .document element
where
  markText : Mark → Text
    | .plain c | .escaped c => [c]
    | .raw html => html

private def isLetter (glyph : Glyph) : Bool := (glyph.char?.map Html.isLetter).getD false

private def isNone (signs : List Char) (glyph : Glyph) : Bool :=
  !glyph.isBlank && !signs.any fun sign => glyph.is sign

private def isTagChar : Glyph → Bool := isNone ['<', '>', '@', '=', '\x22', '\x27']

private def isAttributeChar : Glyph → Bool := isNone ['<', '>', '=', '\x22', '\x27']

private def isValueChar : Glyph → Bool := isNone ['<', '>', '=', '\x22', '\x27', '\x60']

/-- What follows the value of an attribute, which may stand between quotation marks. -/
private def afterValue? (glyphs : Glyphs) : Option Glyphs :=
  match glyphs with
  | [] => none
  | first :: rest =>
      if first.is '\x22' then Glyphs.after? ['\x22'] (rest.dropWhile fun glyph => !glyph.is '\x22')
      else if first.is '\x27' then
        Glyphs.after? ['\x27'] (rest.dropWhile fun glyph => !glyph.is '\x27')
      else if isValueChar first then some (rest.dropWhile isValueChar)
      else none

/-- What follows the attributes of a tag, each of which stands after a blank. -/
private def afterAttributes : Nat → Glyphs → Glyphs
  | 0, glyphs => glyphs
  | steps + 1, glyphs =>
      let start := Glyphs.trimLeft glyphs
      let afterName := start.dropWhile isAttributeChar
      if start.length == glyphs.length || afterName.length == start.length then start
      else
        match Glyphs.after? ['='] (Glyphs.trimLeft afterName) with
        | some value =>
            match afterValue? (Glyphs.trimLeft value) with
            | some rest => afterAttributes steps rest
            | none => afterName
        | none => afterAttributes steps afterName

private def tagLength? (glyphs : Glyphs) : Option Nat := do
  let rest ← Glyphs.after? ['<'] glyphs
  let name := (Glyphs.after? ['/'] rest).getD rest
  if (name.head?.map isLetter).getD false then
    let after ← Glyphs.after? ['>'] (afterAttributes glyphs.length (name.dropWhile isTagChar))
    some (glyphs.length - after.length)
  else none

private def through? (word : Text) : Glyphs → Option Nat
  | [] => none
  | glyph :: rest =>
      if (Glyphs.after? word (glyph :: rest)).isSome then some word.length
      else (through? word rest).map (· + 1)

private def instructionLength? (glyphs : Glyphs) : Option Nat := do
  let body ← Glyphs.after? ['<', '?'] glyphs
  let length ← through? ['?', '>'] body
  some (length + 2)

/-- The length of a comment from its content on; comments do not nest. -/
private def bodyLength? : Glyphs → Option Nat
  | [] => none
  | glyph :: rest =>
      if (Glyphs.after? "-->".toList (glyph :: rest)).isSome then some 3
      else if (Glyphs.after? "<!--".toList (glyph :: rest)).isSome then none
      else (bodyLength? rest).map (· + 1)

private def commentLength? (glyphs : Glyphs) : Option Nat := do
  let body ← Glyphs.after? "<!--".toList glyphs
  let length ← bodyLength? body
  some (length + 4)

private def sealHtml (glyphs : Glyphs) (length : Nat) : Found :=
  .seal [.raw (sourceOf (glyphs.take length))] length

def html? : Search := fun _ glyphs =>
  ([tagLength?, commentLength?, instructionLength?].findSome? fun length? => length? glyphs).map
    (sealHtml glyphs)

def leadingText (glyphs : Glyphs) : Text :=
  match glyphs with
  | [] => []
  | glyph :: rest =>
      match glyph.char? with
      | some c => c :: leadingText rest
      | none => []

def entity? : Search := fun _ glyphs =>
  match glyphs with
  | glyph :: _ =>
      if !glyph.is '&' then none
      else (Html.referenceName? (leadingText glyphs)).map fun name =>
        sealHtml glyphs (name.length + 2)
  | [] => none

end CommentSchema.Markdown.Inline
