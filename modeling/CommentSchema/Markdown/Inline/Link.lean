import CommentSchema.Markdown.EntityName
import CommentSchema.Markdown.Html
import CommentSchema.Markdown.Inline.Glyph
import CommentSchema.Markdown.Target

/-! Links and images: a text in brackets, and either an address with an optional title in
parentheses or the name of a target; and addresses in angle brackets. -/

namespace CommentSchema.Markdown.Inline

/-- The glyphs up to the bracket that closes, brackets being paired, and the rest after it. -/
def bracketed? (depth : Nat) : Glyphs → Option (Glyphs × Glyphs)
  | [] => none
  | glyph :: rest =>
      let keep (found : Option (Glyphs × Glyphs)) :=
        found.map fun (inside, after) => (glyph :: inside, after)
      if glyph.is ']' then
        match depth with
        | 0 => some ([], rest)
        | outer + 1 => keep (bracketed? outer rest)
      else keep (bracketed? (if glyph.is '[' then depth + 1 else depth) rest)

structure Opening where
  sign : Char
  start : Nat

/-- How far the address of a link was searched for its end.  Parentheses are paired until a
quotation mark comes; from there on a title is expected, and the pairs that are left over,
`spare`, only say where the address ends if no title does. -/
structure Scan where
  index : Nat := 0
  depth : Nat := 1
  spare : Nat := 1
  spareEnd : Option Nat := none
  first : Option Opening := none
  firstEnd : Option Nat := none
  second : Option Opening := none
  secondEnd : Option Nat := none
  last : Option Char := none

namespace Scan

private def closes (scan : Scan) (opening : Option Opening) (closing : Option Nat) : Bool :=
  match opening, closing with
  | some opening, some _ => scan.last == some opening.sign
  | _, _ => false

def closesTitle (scan : Scan) : Bool :=
  scan.closes scan.first scan.firstEnd || scan.closes scan.second scan.secondEnd

private def openParenthesis (scan : Scan) : Scan :=
  if scan.first.isNone then { scan with depth := scan.depth + 1 }
  else { scan with spare := scan.spare - 1 }

private def closeParenthesis (scan : Scan) : Scan :=
  if scan.closesTitle then { scan with depth := 0 }
  else if scan.first.isNone then { scan with depth := scan.depth - 1 }
  else if scan.spare = 0 then scan
  else if scan.spare = 1 then { scan with spare := 0, spareEnd := some (scan.index + 1) }
  else { scan with spare := scan.spare - 1 }

private def quotation (scan : Scan) (sign : Char) : Scan :=
  let position := scan.index + 1
  match scan.first, scan.second with
  | none, _ =>
      { scan with spare := scan.depth, depth := 1, first := some ⟨sign, position⟩ }
  | some first, none =>
      if sign == first.sign then { scan with firstEnd := some position }
      else { scan with second := some ⟨sign, position⟩ }
  | some first, some _ =>
      if sign == first.sign then { scan with firstEnd := some position }
      else { scan with secondEnd := some position }

/-- The scan after one glyph; the depth is zero if the glyph closes the link. -/
def step (scan : Scan) (glyph : Glyph) : Scan :=
  let scan :=
    match glyph.char? with
    | some '(' => scan.openParenthesis
    | some ')' => scan.closeParenthesis
    | some '\x22' => scan.quotation '\x22'
    | some '\x27' => scan.quotation '\x27'
    | _ => scan
  { scan with index := scan.index + 1 }

def next (scan : Scan) (glyph : Glyph) : Scan :=
  if glyph.is ' ' then scan else { scan with last := glyph.char? }

def split (scan : Scan) (glyphs : Glyphs) : Glyphs × Option Glyphs :=
  match scan.first, scan.firstEnd, scan.second, scan.secondEnd with
  | some first, some closing, second, secondEnd =>
      if scan.last == some first.sign then parts first closing
      else
        match second, secondEnd with
        | some second, some closing =>
            if scan.last == some second.sign then parts second closing else whole
        | _, _ => whole
  | _, _, some second, some closing =>
      if scan.last == some second.sign then parts second closing else whole
  | _, _, _, _ => whole
where
  whole : Glyphs × Option Glyphs := (glyphs.take (scan.index - 1), none)
  parts (opening : Opening) (closing : Nat) : Glyphs × Option Glyphs :=
    (glyphs.take (opening.start - 1),
      some ((glyphs.take (closing - 1)).drop opening.start))

end Scan

abbrev Destination := Glyphs × Option Glyphs × Glyphs

private def scanFrom (glyphs : Glyphs) (scan : Scan) : Glyphs → Option Destination
  | [] =>
      if scan.spare != 0 then none
      else
        match scan.spareEnd with
        | some stop => some (glyphs.take (stop - 1), none, glyphs.drop stop)
        | none =>
            some (glyphs.take (glyphs.length - 2), none, glyphs.drop (glyphs.length - 1))
  | glyph :: rest =>
      let stepped := scan.step glyph
      if stepped.depth = 0 then
        let (address, title) := stepped.split glyphs
        some (address, title, rest)
      else scanFrom glyphs (stepped.next glyph) rest

private def quotedTitle? (glyphs : Glyphs) : Option (Glyphs × Glyphs) :=
  match glyphs with
  | opening :: rest =>
      ['\x27', '\x22'].findSome? fun sign =>
        if !opening.is sign then none
        else
          let title := rest.takeWhile fun glyph => !glyph.is sign
          match rest.drop title.length with
          | _ :: after => some (title, after)
          | [] => none
  | [] => none

private def angled? (glyphs : Glyphs) : Option Destination := do
  let rest ← Glyphs.after? ['<'] glyphs
  let address := rest.takeWhile fun glyph => !(glyph.is '<' || glyph.is '>')
  let rest := Glyphs.trimLeft (← Glyphs.after? ['>'] (rest.drop address.length))
  match quotedTitle? rest with
  | some (title, after) =>
      let after ← Glyphs.after? [')'] (Glyphs.trimLeft after)
      some (Glyphs.trim address, some title, after)
  | none => do
      let after ← Glyphs.after? [')'] rest
      some (Glyphs.trim address, none, after)

def destination? (glyphs : Glyphs) : Option Destination := do
  let inside := Glyphs.trimLeft (← Glyphs.after? ['('] glyphs)
  match angled? inside with
  | some found => some found
  | none => scanFrom inside {} inside

private def dropQuotes (marks : Marks) : Marks :=
  match marks, marks.getLast? with
  | first :: rest, some last =>
      if ['\x22', '\x27'].any fun sign => first.is sign && last.is sign then rest.dropLast
      else first :: rest
  | _, _ => marks

private def titleText (title : Glyphs) : Marks :=
  (dropQuotes (Glyphs.toMarks (Glyphs.trim title))).map fun mark =>
    if mark.isBlank then .plain ' ' else mark

private def addressText (address : Glyphs) : Marks := Marks.trim (Glyphs.toMarks address)

private def attr (name : String) (value : Marks) : Text × Marks := (name.toList, value)

private def linkDraft (address : Marks) (title : Option Marks) (text : Glyphs) : Draft :=
  { tag := .link,
    attributes := attr "href" address :: (title.map (attr "title")).toList,
    text }

private def imageDraft (address : Marks) (title : Option Marks) (text : Glyphs) : Draft :=
  { tag := .image, verbatim := true,
    attributes := attr "alt" (Glyphs.toMarks text) :: attr "src" address
      :: (title.map (attr "title")).toList }

/-- The text after the opening bracket of a link or, after an exclamation mark, of an image. -/
private def afterOpening? (isImage : Bool) (last : Option Glyph) (glyphs : Glyphs) :
    Option Glyphs :=
  if isImage then Glyphs.after? ['!', '['] glyphs
  else if Glyphs.isChar '!' last then none
  else Glyphs.after? ['['] glyphs

private def draft (isImage : Bool) : Marks → Option Marks → Glyphs → Draft :=
  if isImage then imageDraft else linkDraft

def direct? (isImage : Bool) : Search := fun last glyphs => do
  let inside ← afterOpening? isImage last glyphs
  let (text, rest) ← bracketed? 0 inside
  let (address, title, rest) ← destination? rest
  some (.draft (draft isImage (addressText address) (title.map titleText) text)
    (glyphs.length - rest.length))

/-- Blanks in a row count as one space. -/
def joinBlanks : Glyphs → Glyphs
  | [] => []
  | glyph :: rest =>
      if !glyph.isBlank then glyph :: joinBlanks rest
      else
        match joinBlanks rest with
        | next :: others => if next.is ' ' then next :: others
            else .mark (.plain ' ') :: next :: others
        | [] => [.mark (.plain ' ')]

/-- The name of a target in brackets, after at most one blank; an empty name stands for the
text of the link. -/
private def name? (text rest : Glyphs) : Option (Glyphs × Glyphs) := do
  let rest :=
    match rest with
    | glyph :: after => if glyph.isBlank then after else glyph :: after
    | [] => []
  let inside ← Glyphs.after? ['['] rest
  let name := inside.takeWhile fun glyph => !glyph.is ']'
  let after ← Glyphs.after? [']'] (inside.drop name.length)
  some (if name.isEmpty then text else name, after)

/-- The target of a name that is made of marks only. -/
private def target? (targets : Targets) (name : Glyphs) : Option Target :=
  let marks := (joinBlanks name).filterMap fun
    | .mark mark => some mark
    | _ => none
  if marks.length == (joinBlanks name).length then
    Target.lookup? targets (Marks.toLower marks)
  else none

private def resolve (targets : Targets) (isImage : Bool) (text name : Glyphs) (length : Nat) :
    Found :=
  match target? targets name with
  | some target => .draft (draft isImage target.address target.title text) length
  | none => .skip length

def named? (targets : Targets) (isImage : Bool) : Search := fun last glyphs => do
  let inside ← afterOpening? isImage last glyphs
  let (text, rest) ← bracketed? 0 inside
  let (name, rest) ← name? text rest
  some (resolve targets isImage text name (glyphs.length - rest.length))

def selfNamed? (targets : Targets) (isImage : Bool) : Search := fun last glyphs => do
  let inside ← afterOpening? isImage last glyphs
  let (text, rest) ← bracketed? 0 inside
  some (resolve targets isImage text text (glyphs.length - rest.length))

private def angleText? (glyphs : Glyphs) : Option Glyphs := do
  let rest ← Glyphs.after? ['<'] glyphs
  let inside := rest.takeWhile fun glyph => !(glyph.is '<' || glyph.is '>')
  let _ ← Glyphs.after? ['>'] (rest.drop inside.length)
  some inside

private def isLetterAnd (more : Char → Bool) (glyph : Glyph) : Bool :=
  (glyph.char?.map fun c => Html.isLetter c || more c).getD false

private def isSchemeGlyph : Glyph → Bool :=
  isLetterAnd fun c => Text.isDigit c || c == '+' || c == '.' || c == '-'

private def hasScheme (glyphs : Glyphs) : Bool :=
  (glyphs.head?.map (isLetterAnd fun _ => false)).getD false
    && (Glyphs.after? "://".toList (glyphs.dropWhile isSchemeGlyph)).isSome

def webAddress? : Search := fun _ glyphs => do
  let inside ← angleText? glyphs
  if hasScheme inside then
    some (.draft
      { tag := .link, verbatim := true, text := inside,
        attributes := [attr "href" (Glyphs.toMarks inside)] }
      (inside.length + 2))
  else none

private def isMailAddress (glyphs : Glyphs) : Bool :=
  let domain := glyphs.reverse.takeWhile fun glyph => !glyph.is '@'
  match (glyphs.reverse.drop domain.length) with
  | _ :: user => !domain.isEmpty && !user.isEmpty && user.all fun glyph => !glyph.is '!'
  | [] => false

private def mailScheme : Text := "mailto:".toList

/-- A freed character is spelled by its number, between the two characters that bracket it. -/
private def spelled (marks : Marks) : Text :=
  marks.flatMap fun
    | .plain c => [c]
    | .escaped c => '\x02' :: Text.ofNat c.toNat ++ ['\x03']
    | .raw _ => []

/-- A mail address in angle brackets, which is written in character references. -/
def mailAddress? : Search := fun _ glyphs => do
  let inside ← angleText? glyphs
  if !isMailAddress inside || inside.any (Glyph.is ' ') then none
  else
    let address := spelled (Glyphs.toMarks inside)
    let address := (mailScheme.isPrefixOf? address).getD address
    let href := (mailScheme ++ address).flatMap numericReferenceTo
    some (.draft
      { tag := .link, verbatim := true,
        text := [.mark (.raw (address.flatMap referenceTo))],
        attributes := [attr "href" [.raw href]] }
      (inside.length + 2))

end CommentSchema.Markdown.Inline
