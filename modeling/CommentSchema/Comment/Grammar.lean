import CommentSchema.Comment.Clause
import CommentSchema.Comment.Tags
import CommentSchema.Text.Pattern

/-! The annotations of a comment as patterns, and the passes as searches for them. -/

namespace CommentSchema.Comment.Grammar

open Pattern

/-- As much as possible of a line. -/
def inLine : Pattern := many (one (· != '\n'))

/-- `(.*)<lead>(.*)<backtick>` -/
def clause (lead : Text) : Pattern :=
  both (group 1 inLine) (both (word lead) (both (group 2 inLine) (word [backtick])))

/-- A payload in backticks, at most one comma, and blanks. -/
def entry (number : Nat) : Pattern :=
  both (word [backtick]) (both (group number (several (one (· != backtick))))
    (both (word [backtick]) (both (optional (word [','])) (many (one isInlineBlank)))))

def listing : Pattern :=
  both (group 1 inLine) (both (word oneOfLead) (group 2 (many (entry 3))))

/-- A line that is the word and nothing else. -/
def wholeLine (text : Text) : Pattern := both lineStart (both (word text) lineEnd)

/-- A marker line, with the line feed that ends it. -/
def markerLine : Pattern :=
  both lineStart
    (both (either (word requiredMark) (either (word optionalMark) (word requiredWord)))
      (either (word ['\n']) lineEnd))

def extract (lead description : Text) : Text × Option Text :=
  match (clause lead).search description with
  | none => (description, none)
  | some found => (Text.trim ((found.group? 1).getD []), found.group? 2)

/-- The search fills the second group with all entries, which are then found once more. -/
def extractOneOf (description : Text) : Except Error (Text × Option (List Text)) :=
  match listing.search description with
  | none => .ok (description, none)
  | some found =>
      match ((entry 1).findAll ((found.group? 2).getD [])).filterMap (·.group? 1) with
      | [] => .error (.oneOfWithoutEntries description)
      | entries => .ok (Text.trim ((found.group? 1).getD []), some entries)

def isRequired (comment : Text) : Bool :=
  ((wholeLine requiredMark).search comment).isSome ||
    ((wholeLine requiredWord).search comment).isSome

def stripTags (comment : Text) : Text :=
  let unmarked := Text.erase optionalMark (Text.erase requiredMark (markerLine.erase comment))
  Text.trim (Text.substitute ['\n'] [' '] unmarked)

end CommentSchema.Comment.Grammar
