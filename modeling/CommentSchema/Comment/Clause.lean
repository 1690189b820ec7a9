import CommentSchema.Error
import CommentSchema.Text.Blank

/-! Clauses that end a description.  A clause is a fixed lead and a payload in backticks, or
a lead and a list of such payloads; what stands before it on its line is the description
that remains. -/

namespace CommentSchema.Comment

def backtick : Char := '\x60'

def toLastBacktick? : Text → Option Text
  | [] => none
  | c :: rest =>
      match toLastBacktick? rest with
      | some payload => some (c :: payload)
      | none => if c == backtick then some [] else none

/-- The last occurrence of the lead that a backtick follows: the text before the lead and
the payload from the lead to the last backtick. -/
def clauseInLine? (lead : Text) : Text → Option (Text × Text)
  | [] => none
  | c :: rest =>
      match clauseInLine? lead rest with
      | some (before, payload) => some (c :: before, payload)
      | none =>
          match lead.isPrefixOf? (c :: rest) with
          | some after => (toLastBacktick? after).map fun payload => ([], payload)
          | none => none

/-- The remaining description and the payload of the clause, on the first line that has one. -/
def extract (lead : Text) (description : Text) : Text × Option Text :=
  match (Text.lines description).findSome? (clauseInLine? lead) with
  | some (before, payload) => (Text.trim before, some payload)
  | none => (description, none)

def defaultLead : Text := "Defaults to \x60".toList

def typeLead : Text := "Schema type is \x60".toList

def exampleLead : Text := "For example: \x60".toList

def oneOfLead : Text := "Schema type is one of ".toList

def extractDefault (description : Text) : Text × Option Text := extract defaultLead description

def extractType (description : Text) : Text × Option Text := extract typeLead description

def extractExample (description : Text) : Text × Option Text := extract exampleLead description

def isInlineBlank (c : Char) : Bool := c == ' ' || c == '\t'

def dropComma : Text → Text
  | ',' :: after => after
  | after => after

/-- One entry of a list: a payload in backticks, and after it at most one comma and blanks. -/
def item? : Text → Option (Text × Text)
  | [] => none
  | c :: rest =>
      if c != backtick then none
      else
        let payload := rest.takeWhile (· != backtick)
        match rest.drop payload.length with
        | [] => none
        | _ :: after =>
            if payload.isEmpty then none
            else some (payload, (dropComma after).dropWhile isInlineBlank)

def checkEntryGroups (count : Nat) : Except Error Unit :=
  if count = 1 then .ok () else .error (.payloadCount count)

/-- The longest run of entries at the start of a text. -/
def entriesFrom : Nat → Text → List Text
  | 0, _ => []
  | steps + 1, text =>
      match item? text with
      | some (payload, after) => payload :: entriesFrom steps after
      | none => []

def entries (text : Text) : List Text := entriesFrom text.length text

/-- The text before the last occurrence of the lead on its first line, and the text after it. -/
def oneOfSplit? (description : Text) : Option (Text × Text) :=
  go (Text.lines description)
where
  go : List Text → Option (Text × Text)
    | [] => none
    | line :: rest =>
        match Text.splitLast? oneOfLead line with
        | some (before, after) => some (before, Text.unlines (after :: rest))
        | none => go rest

/-- The remaining description and the listed payloads.  A lead without any payload is no
matter of one field. -/
def extractOneOf (description : Text) : Except Error (Text × Option (List Text)) :=
  match oneOfSplit? description with
  | none => .ok (description, none)
  | some (before, after) =>
      match entries after with
      | [] => .error (.oneOfWithoutEntries description)
      | found => .ok (Text.trim before, some found)

def joinNonempty (separator : Text) (texts : List Text) : Text :=
  Text.join separator (texts.filter fun text => !text.isEmpty)

end CommentSchema.Comment
