import CommentSchema.Text.Basic

/-! The paraphrase at the start of a description: the name of the field, perhaps an aside
between asterisks, perhaps a verb.  The aside stays. -/

namespace CommentSchema.Comment

def verbs : List Text :=
  ["is the ", "is ", "are the ", "are ", "lists "].map String.toList

def dropVerb (text : Text) : Text := (verbs.findSome? (·.isPrefixOf? text)).getD text

/-- The aside that the text begins with, up to the last asterisk before a space on its line,
and the text after it. -/
def aside? : Text → Option (Text × Text)
  | '*' :: rest => (toLastClosing rest).map fun (aside, after) => ('*' :: aside, after)
  | _ => none
where
  toLastClosing : Text → Option (Text × Text)
    | [] => none
    | c :: rest =>
        if c == '\n' then none
        else
          match toLastClosing rest with
          | some (aside, after) => some (c :: aside, after)
          | none =>
              match c, rest with
              | '*', ' ' :: after => some (['*', ' '], after)
              | _, _ => none

def removeName (name description : Text) : Text :=
  if name.isEmpty then description
  else
    match (name ++ [' ']).isPrefixOf? description with
    | none => description
    | some rest =>
        match aside? rest with
        | some (aside, after) => aside ++ dropVerb after
        | none => dropVerb rest

end CommentSchema.Comment
