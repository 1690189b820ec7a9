import CommentSchema.Text.Blank

/-! References to named definitions.  A qualified name is a context and a plain name with a
dot between them; a reference is a qualified name after a base. -/

namespace CommentSchema.Reference

def defaultBase : Text := "#/definitions/".toList

/-- What stands before and after the last dot; without a dot nothing stands before. -/
def splitQualified (text : Text) : Text × Text :=
  (Text.splitLast? ['.'] text).getD ([], text)

def interpret (raw : Option Text) : Text × Text :=
  let text := Text.trim (raw.getD [])
  splitQualified ((defaultBase.isPrefixOf? text).getD text)

/-- A bare name belongs to the context; a dotted one stands for itself. -/
def qualify (context dotted : Text) : Text :=
  if dotted.contains '.' || context.isEmpty then dotted else context ++ '.' :: dotted

end CommentSchema.Reference
