import CommentSchema.Markdown.Html
import CommentSchema.Markdown.Mark

/-! Blocks of HTML in a document.  An element of a block that begins a line is kept as it
is, with all that it holds, as one mark in a paragraph of its own; every other tag stays
part of the text.

Where markup has no end, reading breaks off, and what is left is read anew as the last part of
the document.  Lines are counted on, and a line that was looked up before keeps its place. -/

namespace CommentSchema.Markdown.RawBlock

/-- What stands at some place of the source.  A stop is an end tag; a point is whatever
needs no end. -/
inductive Item where
  | text (length : Nat)
  | start (name : Text) (length : Nat)
  | stop (name : Text) (length : Nat)
  | point (isBlock : Bool) (shown : Text) (length : Nat)
  | badReference
  | unfinished
deriving DecidableEq, Repr

structure KnownLine where
  line : Nat := 0
  start : Nat := 0

structure Search where
  source : Text
  isLast : Bool := false
  found : Marks := []
  pending : Text := []
  elements : List Text := []
  inlineElements : List Text := []
  insideRaw : Bool := false
  afterRaw : Bool := false
  inertName : Option Text := none
  line : Nat := 0
  column : Nat := 0
  known : KnownLine := {}

namespace Search

def lineAfter (source : Text) : Nat → Nat → Nat
  | 0, start => start
  | count + 1, start =>
      let rest := source.drop start
      let line := rest.takeWhile (· != '\n')
      lineAfter source count
        ((if line.length < rest.length then start + line.length else source.length) + 1)

def lineStart (search : Search) : Nat :=
  lineAfter search.source (search.line - search.known.line) search.known.start

def place (search : Search) : Nat := search.lineStart + search.column

def lookUp (search : Search) : Search :=
  { search with known := ⟨search.line, search.lineStart⟩ }

def maxIndent : Nat := 3

/-- The line is looked up if something stands before the place but not too much. -/
def lookUpIndent (search : Search) : Search :=
  if 0 < search.column && search.column ≤ maxIndent then search.lookUp else search

/-- A block may begin where a line does, up to three spaces aside. -/
def atLineStart (search : Search) : Bool :=
  search.column ≤ maxIndent
    && ((search.source.drop search.lineStart).take search.column).all Text.isBlank

def mayBegin (search : Search) : Bool := search.atLineStart || search.afterRaw

def advance (search : Search) (text : Text) : Search :=
  let last := text.reverse.takeWhile (· != '\n')
  { search with
    line := search.line + text.countP (· == '\n'),
    column := if last.length == text.length then search.column + text.length else last.length }

def emptyLine : Marks := Marks.ofText ['\n', '\n']

private def hasEmptyLine : Text → Bool
  | '\n' :: '\n' :: _ => true
  | _ :: rest => hasEmptyLine rest
  | [] => false

def addText (search : Search) (text : Text) : Search :=
  let search := if text.contains '\n' then { search with afterRaw := false } else search
  let search := if hasEmptyLine text then { search with inlineElements := [] } else search
  if search.insideRaw then { search with pending := search.pending ++ text }
  else { search with found := search.found ++ Marks.ofText text }

def addRaw (search : Search) (html : Text) : Search :=
  { search with found := search.found ++ .raw html :: emptyLine }

/-- Whether what is shown ends its line, with an empty line after it. -/
def endsParagraph (search : Search) (shown : Text) : Bool :=
  match (search.source.drop (search.place + shown.length)).dropWhile (· == ' ') with
  | '\n' :: rest => (rest.dropWhile (· == ' ')).head? == some '\n'
  | _ => false

/-- A single line end before a block becomes an empty line. -/
def closeLine (search : Search) : Search :=
  match search.found.reverse with
  | last :: before =>
      if last.is '\n' && !((before.head?.map (Mark.is '\n')).getD false) then
        { search with found := search.found ++ [Marks.newline] }
      else search
  | [] => search

def addPoint (search : Search) (isBlock : Bool) (shown : Text) : Search :=
  if search.insideRaw || search.afterRaw then
    { search with pending := search.pending ++ shown }
  else
    let search := search.lookUpIndent
    if search.atLineStart && isBlock then
      let search := search.lookUp
      if search.endsParagraph shown then search.closeLine.addRaw (shown ++ ['\n'])
      else { search with afterRaw := true }.closeLine.addRaw shown
    else { search with found := search.found ++ Marks.ofText shown }

def inertNames : List Text := ["script", "style"].map String.toList

def voidNames : List Text :=
  ["area", "base", "br", "col", "embed", "hr", "img", "input", "link", "meta", "param",
    "source", "track", "wbr"].map String.toList

def addStart (search : Search) (name shown : Text) : Search :=
  let search :=
    if !Html.isBlockName name then search
    else
      let search := if search.afterRaw then search else search.lookUpIndent
      if search.mayBegin then
        { search with insideRaw := true, found := search.found ++ [Marks.newline] }
      else search
  if search.insideRaw then
    { search with
      elements := name :: search.elements, pending := search.pending ++ shown,
      inertName := if inertNames.contains name then some name else search.inertName }
  else
    { search with
      found := search.found ++ Marks.ofText shown,
      inlineElements :=
        if voidNames.contains name then search.inlineElements else name :: search.inlineElements }

/-- The open elements after the end of the innermost one of a name. -/
def closeElement (name : Text) (elements : List Text) : List Text :=
  if elements.contains name then (elements.dropWhile (· != name)).drop 1 else elements

def stopText (search : Search) (name : Text) : Text :=
  match Text.splitFirst? ['>'] (search.source.drop search.place) with
  | some (tag, _) => tag ++ ['>']
  | none => '<' :: '/' :: name ++ ['>']

def addStop (search : Search) (name : Text) : Search :=
  let search := { search with inertName := none }.lookUp
  let shown := search.stopText name
  if search.insideRaw then
    let elements := closeElement name search.elements
    let pending := search.pending ++ shown
    if !elements.isEmpty then { search with elements, pending }
    else
      let ends := search.endsParagraph shown
      let html := if ends then pending ++ ['\n'] else pending
      { search with
        elements := [], pending := [], insideRaw := false,
        afterRaw := search.afterRaw || !ends }.addRaw html
  else
    { search with
      found := search.found ++ Marks.ofText shown,
      inlineElements := closeElement name search.inlineElements }

/-- What is still pending at the end is a block as well. -/
def finish (search : Search) : Marks :=
  if search.pending.isEmpty then search.found else search.found ++ [.raw search.pending]

end Search

private def before? (word text : Text) : Option (Text × Nat) :=
  (Text.splitFirst? word text).map fun (before, _) => (before, before.length + word.length)

private def isNameChar (c : Char) : Bool :=
  Html.isLetter c || Text.isDigit c || c == '-' || c == '.' || c == '_' || c == ':'

/-- In the last part, what begins like markup but never ends is text up to the next angle
bracket. -/
private def unfinishedLength (text : Text) : Nat :=
  match before? ['>'] text with
  | some (_, length) => length
  | none =>
      match Text.splitFirst? ['<'] (text.drop 1) with
      | some (shown, _) => shown.length + 1
      | none => 1

private def stopItem (text : Text) : Item :=
  match before? ['>'] text with
  | none => .unfinished
  | some (tag, length) =>
      let inner := Text.trimLeft (tag.drop 2)
      let name := inner.takeWhile isNameChar
      if (name.head?.map Html.isLetter).getD false
          && (Text.trimLeft (inner.drop name.length)).isEmpty then
        .stop (Text.toLower name) length
      else
        let name := (tag.drop 2).takeWhile fun c => !(c == '/' || c == '\x00' || Text.isBlank c)
        .stop (Text.toLower name) length

private def split? (afterEnd? : Text → Option Text) : Text → Option (Text × Text)
  | [] => none
  | c :: rest =>
      match afterEnd? (c :: rest) with
      | some after => some ([], after)
      | none => (split? afterEnd? rest).map fun (before, after) => (c :: before, after)

private def afterCommentEnd? : Text → Option Text
  | '-' :: '-' :: '>' :: rest => some rest
  | '-' :: '-' :: '!' :: '>' :: rest => some rest
  | _ => none

/-- The content of a comment, and what follows.  Without an end it may be over at once. -/
private def comment? (body : Text) : Option (Text × Text) :=
  match split? afterCommentEnd? body, body with
  | some found, _ => some found
  | none, '>' :: rest => some ([], rest)
  | none, '-' :: '>' :: rest => some ([], rest)
  | none, _ => none

/-- A comment, which is no block inside of an element that is none. -/
private def commentItem (search : Search) (text : Text) : Item :=
  match comment? (text.drop 4) with
  | some (body, rest) =>
      .point search.inlineElements.isEmpty ("<!--".toList ++ body ++ "-->".toList)
        (text.length - rest.length)
  | none => .text 1

private def instructionItem (mayBegin : Bool) (text : Text) : Item :=
  if mayBegin then
    match before? "?>".toList (text.drop 2) with
    | some (_, length) => .point true (text.take (length + 2)) (length + 2)
    | none => .unfinished
  else .text 2

private def sectionLead : Text := "<![CDATA[".toList

private def doctypeLead : Text := "<!doctype".toList

/-- What follows two closing brackets and an angle bracket with blanks between them. -/
private def afterSectionEnd? (text : Text) : Option Text :=
  match text with
  | ']' :: rest =>
      match Text.trimLeft rest with
      | ']' :: rest =>
          match Text.trimLeft rest with
          | '>' :: rest => some rest
          | _ => none
      | _ => none
  | _ => none

/-- A section of literal text up to its end, which is shown without blanks. -/
private def sectionItem (text : Text) : Item :=
  match split? afterSectionEnd? text with
  | some (body, rest) => .point true (body ++ "]]>".toList) (text.length - rest.length)
  | none => .unfinished

private def declarationItem (mayBegin : Bool) (text : Text) : Item :=
  if !mayBegin then .text 2
  else if sectionLead.isPrefixOf text then sectionItem text
  else
    match before? ['>'] text with
    | some (_, length) =>
        let shown := text.take length
        .point (doctypeLead.isPrefixOf (Text.toLower shown)) shown length
    | none => if "<![".toList.isPrefixOf text then .text 1 else .unfinished

private def isReferenceChar (c : Char) : Bool :=
  Html.isLetter c || Text.isDigit c || c == '-' || c == '.'

/-- A numeric reference, which is completed if its semicolon is missing. -/
private def numericItem (body : Text) : Item :=
  let (digits, after) :=
    match body with
    | x :: rest =>
        if x == 'x' || x == 'X' then
          let digits := rest.takeWhile (Text.isDigitOf 16)
          (if digits.isEmpty then [] else x :: digits, rest.drop digits.length)
        else
          let digits := body.takeWhile Text.isDigit
          (digits, body.drop digits.length)
    | [] => ([], [])
  match digits.isEmpty, after with
  | false, c :: _ =>
      if Text.isDigitOf 16 c then .badReference
      else
        let shown := '&' :: '#' :: digits ++ [';']
        .point false shown (if c == ';' then digits.length + 3 else digits.length + 2)
  | _, _ => .badReference

private def namedItem (body : Text) : Item :=
  let name := body.takeWhile isReferenceChar
  if (name.head?.map Html.isLetter).getD false && (body.drop name.length).head? == some ';' then
    let shown := '&' :: name ++ [';']
    .point false shown shown.length
  else .text 1

private def startItem (text : Text) : Item :=
  match Html.startTag text with
  | .complete name closesItself length =>
      if closesItself || name == "hr".toList then
        .point (Html.isBlockName name) (text.take length) length
      else .start name length
  | .broken length => .text length
  | .unfinished => .text 1

/-- Inside of a script or a style only its own end tag counts. -/
private def inertItem (name text : Text) : Item :=
  match stopItem text with
  | .stop stopName length => if stopName == name then .stop name length else .text 1
  | _ => .text 1

/-- The first character and all after it that cannot begin anything. -/
private def runLength (text : Text) : Nat :=
  ((text.drop 1).takeWhile fun c => c != '<' && c != '&').length + 1

def item (search : Search) (text : Text) : Item :=
  match search.inertName with
  | some name =>
      if "</".toList.isPrefixOf text then inertItem name text else .text (runLength text)
  | none =>
      match text with
      | '<' :: '/' :: c :: _ => if Html.isLetter c then stopItem text else .text 2
      | '<' :: '!' :: '-' :: '-' :: _ => commentItem search text
      | '<' :: '!' :: _ => declarationItem search.mayBegin text
      | '<' :: '?' :: _ => instructionItem search.mayBegin text
      | '<' :: c :: _ => if Html.isLetter c then startItem text else .text 1
      | '&' :: '#' :: body => numericItem body
      | '&' :: body => namedItem body
      | _ => .text (runLength text)

/-- The line is looked up wherever a declaration or an instruction may begin. -/
private def beforeItem (search : Search) (text : Text) : Search :=
  match search.inertName, text with
  | none, '<' :: '!' :: '-' :: '-' :: _ => search
  | none, '<' :: '!' :: _ | none, '<' :: '?' :: _ => search.lookUpIndent
  | _, _ => search

def add (search : Search) (text : Text) : Item → Search
  | .text length => search.addText (text.take length)
  | .start name length => search.addStart name (text.take length)
  | .stop name _ => search.addStop name
  | .point isBlock shown _ => search.addPoint isBlock shown
  | .badReference => search.addText ['&', '#']
  | .unfinished => search

/-- Read on until reading breaks off, and the text that is left. -/
def run : Nat → Search → Text → Search × Text
  | _, search, [] => (search, [])
  | 0, search, text => (search, text)
  | steps + 1, search, text =>
      let search := beforeItem search text
      let pass (item : Item) (length : Nat) : Search × Text :=
        ((add search text item).advance (text.take length), text.drop length)
      let passOn (item : Item) (length : Nat) : Search × Text :=
        let (search, rest) := pass item length
        run steps search rest
      match item search text with
      | .text length => passOn (.text length) length
      | .start name length => passOn (.start name length) length
      | .stop name length => passOn (.stop name length) length
      | .point isBlock shown length => passOn (.point isBlock shown length) length
      | .badReference => if text.contains ';' then pass .badReference 2 else (search, text)
      | .unfinished =>
          if search.isLast then
            let length := unfinishedLength text
            passOn (.text length) length
          else (search, text)

/-- The document with each of its blocks of HTML as one mark. -/
def extract (source : Text) : Marks :=
  let (search, rest) := run source.length { source } source
  let (search, rest) := run rest.length { search with source := rest, isLast := true } rest
  (search.addText rest).finish

end CommentSchema.Markdown.RawBlock
