import CommentSchema.Markdown.Line
import CommentSchema.Text.Case

/-! Link targets that are defined apart from the links: a name in brackets, a colon, an
address and perhaps a title, all on lines of their own. -/

namespace CommentSchema.Markdown

structure Target where
  address : Marks
  title : Option Marks := none

/-- Targets under their names in lower case; of equal names the last one counts. -/
abbrev Targets := List (Marks × Target)

def Marks.leading : Marks → Text
  | .plain c :: rest => c :: leading rest
  | _ => []

/-- Lower case of marks with the plain characters before them, the last one first. -/
def Marks.lowerAfter : Text → Marks → Marks
  | _, [] => []
  | before, .plain c :: rest =>
      (Text.lowerBetween before c (leading rest)).map .plain ++ lowerAfter (c :: before) rest
  | _, mark :: rest => mark :: lowerAfter [] rest

def Marks.toLower (marks : Marks) : Marks := lowerAfter [] marks

namespace Target

private def dropSpaces (marks : Marks) : Marks := marks.drop (Marks.indent marks)

private def endsLine : Marks → Bool
  | [] => true
  | mark :: _ => mark.is '\n'

private def title? (marks : Marks) : Option (Marks × Marks) :=
  let line := marks.takeWhile fun mark => !mark.is '\n'
  let closed := (line.reverse.dropWhile (Mark.is ' ')).reverse
  match closed, closed.getLast? with
  | first :: second :: rest, some last =>
      let inner := (second :: rest).dropLast
      let fits := [('\x22', '\x22'), ('\x27', '\x27'), ('(', ')')].any fun (opening, closing) =>
        first.is opening && last.is closing
      if fits then some (inner, marks.drop line.length) else none
  | _, _ => none

/-- What follows an address on the line where it may end. -/
private def ending? (marks : Marks) : Option (Option Marks × Marks) :=
  match title? marks with
  | some (title, rest) => some (some title, rest)
  | none => if endsLine marks then some (none, marks) else none

private def afterAddress? (marks : Marks) : Option (Option Marks × Marks) :=
  let sameLine := dropSpaces marks
  match sameLine with
  | mark :: rest =>
      if mark.is '\n' then
        match ending? (dropSpaces rest) with
        | some found => some found
        | none => ending? sameLine
      else ending? sameLine
  | [] => ending? sameLine

/-- The longest address of at most `length` marks that leaves a proper end. -/
private def address? (marks : Marks) : Nat → Option (Target × Marks)
  | 0 => none
  | length + 1 =>
      match afterAddress? (marks.drop (length + 1)) with
      | some (title, rest) =>
          let address := (marks.take (length + 1)).dropWhile (Mark.is '<')
          let address := (address.reverse.dropWhile (Mark.is '>')).reverse
          let title := title.filter fun title => !title.isEmpty
          some ({ address, title }, rest)
      | none => address? marks length

private def isBracket (mark : Mark) : Bool := mark.is '[' || mark.is ']'

def atLine? (marks : Marks) : Option ((Marks × Target) × Marks) :=
  match Line.unindented? marks with
  | some (opening :: rest) =>
      if !opening.is '[' then none
      else
        let name := rest.takeWhile fun mark => !isBracket mark
        match rest.drop name.length with
        | closing :: colon :: rest =>
            if closing.is ']' && colon.is ':' then
              let body :=
                match dropSpaces rest with
                | mark :: after => if mark.is '\n' then dropSpaces after else mark :: after
                | [] => []
              let length := (body.takeWhile fun mark => !mark.isBlank).length
              (address? body length).map fun (target, rest) =>
                ((Marks.toLower (Marks.trim name), target), rest)
            else none
        | _ => none
  | _ => none

/-- Targets on the lines that follow one another, and what comes after them. -/
def atLines : Nat → Marks → List (Marks × Target) × Marks
  | 0, marks => ([], marks)
  | steps + 1, marks =>
      match atLine? (Marks.dropNewlines marks) with
      | some (target, rest) =>
          let (others, rest) := atLines steps rest
          (target :: others, rest)
      | none => ([], marks)

/-- The first targets of a block, with what stands before and after them. -/
def find? (block : Marks) : Option (Marks × List (Marks × Target) × Marks) := go true block
where
  go (atLineStart : Bool) (marks : Marks) : Option (Marks × List (Marks × Target) × Marks) :=
    match if atLineStart then atLine? marks else none with
    | some (target, rest) =>
        let (others, rest) := atLines block.length rest
        some ([], target :: others, rest)
    | none =>
        match marks with
        | [] => none
        | mark :: rest =>
            (go (mark.is '\n') rest).map fun (before, found, after) =>
              (mark :: before, found, after)
  termination_by structural marks

def lookup? (targets : Targets) (name : Marks) : Option Target := targets.lookup name

end Target

end CommentSchema.Markdown
