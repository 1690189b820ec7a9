import CommentSchema.Expr.Token

/-! A text as the tokens of one logical line.  Inside brackets lines do not count; outside
them nothing but blank lines and comments may stand before the line or after it, and the
line itself is not indented. -/

namespace CommentSchema.Token

def isInlineSpace (c : Char) : Bool := c == ' ' || c == '\t' || c == '\x0c'

def skipComment (text : Text) : Text := text.dropWhile (· != '\n')

/-- Past blank lines and comments, the indentation of the next line and what it says.  In an
indentation that runs over several lines the first one counts; `splitAt` is its width. -/
def nextLine? (inComment : Bool) (splitAt column : Nat) : Text → Option (Nat × Text)
  | [] => some (0, [])
  | '\n' :: rest => nextLine? false 0 0 rest
  | '\\' :: '\n' :: rest =>
      if inComment then nextLine? false 0 0 rest
      else if rest.isEmpty then none
      else nextLine? false (if splitAt = 0 then column else splitAt) column rest
  | c :: rest =>
      if inComment || c == '#' then nextLine? true splitAt column rest
      else if c == '\x0c' then nextLine? false splitAt 0 rest
      else if c == ' ' || c == '\t' then nextLine? false splitAt (column + 1) rest
      else some (if splitAt = 0 then column else splitAt, c :: rest)

def bracketLimit : Nat := 200

/-- The tokens from the first of the line on, `open` brackets being open. -/
def scanLine (steps openings : Nat) (text : Text) : Option (List Token) :=
  match steps with
  | 0 => none
  | steps + 1 =>
      match text with
      | [] => some []
      | '\n' :: rest =>
          if openings > 0 then scanLine steps openings rest
          else
            match nextLine? false 0 0 rest with
            | some (_, []) => some []
            | _ => none
      | '#' :: rest => scanLine steps openings (skipComment rest)
      | '\\' :: rest =>
          match rest with
          | '\n' :: after => if after.isEmpty then none else scanLine steps openings after
          | _ => none
      | c :: rest =>
          if isInlineSpace c then scanLine steps openings rest
          else
            match next? (c :: rest) with
            | none => none
            | some (token, rest) =>
                if token.isOpening then
                  if openings < bracketLimit then
                    (scanLine steps (openings + 1) rest).map (token :: ·)
                  else none
                else if token.isClosing then
                  match openings with
                  | 0 => none
                  | openings + 1 => (scanLine steps openings rest).map (token :: ·)
                else (scanLine steps openings rest).map (token :: ·)

def scan (text : Text) : Option (List Token) :=
  let text := Text.normalizeLines text
  match nextLine? false 0 0 text with
  | some (0, line) => scanLine (line.length + 1) 0 line
  | _ => none

end CommentSchema.Token
