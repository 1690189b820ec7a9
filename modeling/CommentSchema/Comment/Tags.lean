import CommentSchema.Text.Blank

/-! Marker lines and marker words.  A line that is exactly a marker says whether the field
is required and is no part of the description; the marker words are removed anywhere. -/

namespace CommentSchema.Comment

def requiredMark : Text := "+required".toList

def optionalMark : Text := "+optional".toList

def requiredWord : Text := "Required".toList

def demandsField (line : Text) : Bool := line == requiredMark || line == requiredWord

def isMarker (line : Text) : Bool := demandsField line || line == optionalMark

def isRequired (comment : Text) : Bool := (Text.lines comment).any demandsField

/-- The comment in one line, without marker lines and marker words. -/
def stripTags (comment : Text) : Text :=
  let kept := (Text.lines comment).filter fun line => !isMarker line
  let erased := kept.map fun line => Text.erase optionalMark (Text.erase requiredMark line)
  Text.trim (Text.join [' '] erased)

end CommentSchema.Comment
