import CommentSchema.Definition.Basic
import CommentSchema.Error
import CommentSchema.Text.Blank

/-! Blocks that list the values of a field: a header line and the bullets right below it.
The block leaves the comment, its values become the allowed ones unless there are some
already, and a sentence that lists them takes its place. -/

namespace CommentSchema.Comment

structure EnumBlock where
  remaining : Text
  sentence : Text
deriving DecidableEq, Repr

namespace EnumBlock

def headers : List Text := ["Possible values:", "Possible values are:"].map String.toList

def isHeader (line : Text) : Bool := headers.contains (Text.trim line)

def isBullet (line : Text) : Bool := (Text.trim line).head? == some '-'

def bulletLead : Text := "- \x60".toList

/-- The value of a trimmed bullet: a dash, a value in backticks, and nothing more but a colon
and what it explains. -/
def bulletValue? (bullet : Text) : Option Text :=
  match bulletLead.isPrefixOf? bullet with
  | none => none
  | some rest =>
      let value := rest.takeWhile (· != '\x60')
      match value.isEmpty, rest.drop value.length with
      | false, [_] => some value
      | false, _ :: ':' :: _ => some value
      | _, _ => none

def values : List Text → Except CommentError (List Text)
  | [] => .ok []
  | line :: rest =>
      let bullet := Text.trim line
      match bulletValue? bullet with
      | none => .error ⟨.bulletMalformed bullet, [], some bullet⟩
      | some value => (values rest).map (value :: ·)

/-- The lines before the first header, the header and the lines after it. -/
def splitHeader? : List Text → Option (List Text × Text × List Text)
  | [] => none
  | line :: rest =>
      if isHeader line then some ([], line, rest)
      else (splitHeader? rest).map fun (before, header, after) => (line :: before, header, after)

def sentenceOf (values : List Text) : Text :=
  "Possible values are ".toList
    ++ Text.join [',', ' '] (values.map fun value => '\x60' :: value ++ ['\x60']) ++ ['.']

def find (comment : Text) : Except CommentError (Option (EnumBlock × List Text)) :=
  match splitHeader? (Text.lines comment) with
  | none => .ok none
  | some (before, header, after) => do
      let found ← values (after.takeWhile isBullet)
      if found.isEmpty then .error ⟨.blockEmpty (Text.trim header), [], some header⟩
      else
        let remaining := Text.unlines (before ++ after.dropWhile isBullet)
        .ok (some (⟨remaining, sentenceOf found⟩, found))

/-- Values that are there already stay. -/
def apply (definition : Definition) (comment : Text) :
    Except Error (Definition × Option EnumBlock) :=
  match find comment with
  | .error error => .error (.comment error)
  | .ok none => .ok (definition, none)
  | .ok (some (block, found)) =>
      let enum := definition.enum.getD (found.map .str)
      .ok ({ definition with enum := some enum }, some block)

end EnumBlock

end CommentSchema.Comment
