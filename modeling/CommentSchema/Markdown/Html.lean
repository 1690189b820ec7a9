import CommentSchema.Text.Blank
import CommentSchema.Text.Case
import CommentSchema.Text.Digits

/-! HTML tags and references as they stand at the start of a text, and the escaping of text
that becomes HTML. -/

namespace CommentSchema.Markdown.Html

def blockNames : List Text :=
  ["address", "article", "aside", "blockquote", "details", "div", "dl", "fieldset",
    "figcaption", "figure", "footer", "form", "h1", "h2", "h3", "h4", "h5", "h6", "header",
    "hgroup", "hr", "main", "menu", "nav", "ol", "p", "pre", "section", "table", "ul", "canvas",
    "colgroup", "dd", "body", "dt", "group", "html", "iframe", "li", "legend", "math", "map",
    "noscript", "output", "object", "option", "progress", "script", "style", "summary", "tbody",
    "td", "textarea", "tfoot", "th", "thead", "tr", "video", "center"].map String.toList

private def dropLastSlashes (text : Text) : Text :=
  (text.reverse.dropWhile (· == '/')).reverse

def isBlockName (name : Text) : Bool := blockNames.contains (dropLastSlashes (Text.toLower name))

def isBlock : Text → Bool
  | '<' :: rest =>
      let rest :=
        match rest with
        | '/' :: rest => rest
        | rest => rest
      match rest.takeWhile fun c => c != ' ' && c != '>' with
      | [] => false
      | c :: name => ['!', '?', '@', '%'].contains c || isBlockName (c :: name)
  | _ => false

def isLetter (c : Char) : Bool := ('a' ≤ c && c ≤ 'z') || ('A' ≤ c && c ≤ 'Z')

/-- The name of a character reference at the start of a text, without what encloses it;
`mayName` tells which characters the name of an entity may have. -/
def referenceNameOf? (mayName : Char → Bool) (text : Text) : Option Text :=
  match text with
  | '&' :: '#' :: rest =>
      match rest with
      | [] => none
      | x :: body =>
          if x == 'x' || x == 'X' then
            closed ['#', x] (body.takeWhile (Text.isDigitOf 16)) body
          else closed ['#'] (rest.takeWhile Text.isDigit) rest
  | '&' :: rest => closed [] (rest.takeWhile mayName) rest
  | _ => none
where
  closed (lead name rest : Text) : Option Text :=
    if !name.isEmpty && (rest.drop name.length).head? == some ';' then some (lead ++ name)
    else none

def referenceName? (text : Text) : Option Text :=
  referenceNameOf? (fun c => Text.isDigit c || isLetter c) text

inductive StartTag where
  | complete (name : Text) (closesItself : Bool) (length : Nat)
  | broken (length : Nat)
  | unfinished
deriving DecidableEq, Repr

private def endsName (c : Char) : Bool :=
  "\x60\t\n\r\x0c />\x00".toList.contains c

private def isGap (c : Char) : Bool := c == '/' || Text.isBlank c

def skipWhile (mayPass : Char → Bool) : Char → Text → Char × Text
  | last, [] => (last, [])
  | last, c :: rest => if mayPass c then skipWhile mayPass c rest else (last, c :: rest)

/-- Blanks and slashes, apart from the slash of a tag that closes itself. -/
def skipGap : Char → Text → Char × Text
  | last, [] => (last, [])
  | last, c :: rest =>
      if Text.isBlank c || (c == '/' && rest.head? != some '>') then skipGap c rest
      else (last, c :: rest)

private def isBareChar (c : Char) : Bool := c != '\x60' && c != '>' && !Text.isBlank c

/-- What follows the commas after a value, with blanks before each of them. -/
def skipCommas : Nat → Char → Text → Char × Text
  | 0, last, text => (last, text)
  | steps + 1, last, text =>
      match Text.trimLeft text with
      | ',' :: rest => skipCommas steps ',' rest
      | _ => (last, text)

/-- What follows the value of an attribute; without a value nothing is passed over.  A quotation
that is not closed is no value: there is an empty one before the blanks, or the last of several
equals signs begins one. -/
def skipValue (last : Char) (text : Text) : Char × Text :=
  let afterBlank := Text.trimLeft text
  let signs := afterBlank.takeWhile (· == '=')
  let rest := afterBlank.drop signs.length
  let start := Text.trimLeft rest
  if signs.isEmpty then (last, text)
  else
    match start with
    | mark :: inside =>
        if mark != '\x27' && mark != '\x22' then
          commas (skipWhile isBareChar (if start.length < rest.length then ' ' else '=') start)
        else
          match inside.dropWhile (· != mark) with
          | _ :: after => commas (mark, after)
          | [] =>
              if start.length < rest.length then ('=', rest)
              else if 1 < signs.length then commas (skipWhile isBareChar '=' start)
              else (last, text)
    | [] => ('=', rest)
where
  commas (value : Char × Text) : Char × Text := skipCommas value.2.length value.1 value.2

private def mayPrecedeName (c : Char) : Bool := isGap c || c == '\x27' || c == '\x22'

/-- What follows the attributes of a tag, `last` being the character before them. -/
def skipAttributes : Nat → Char → Text → Text
  | 0, _, text => text
  | _, _, [] => []
  | steps + 1, last, c :: rest =>
      if mayPrecedeName last && c != '\x60' && c != '>' && !isGap c then
        let (last, afterName) := skipWhile (fun c => c != '=' && c != '>' && !isGap c) c rest
        let (last, afterValue) := skipValue last afterName
        let (last, after) := skipGap last afterValue
        skipAttributes steps last after
      else c :: rest

def startTag (text : Text) : StartTag :=
  let (last, afterName) := skipWhile (fun c => !endsName c) '<' (text.drop 1)
  let name := (text.drop 1).take (text.length - 1 - afterName.length)
  let (last, gap) := skipGap last afterName
  match skipAttributes text.length last gap with
  | '>' :: after => .complete (Text.toLower name) false (text.length - after.length)
  | '/' :: '>' :: after => .complete (Text.toLower name) true (text.length - after.length)
  | [] => .unfinished
  | c :: after =>
      if c == '/' || c == '=' || isLetter c then .unfinished
      else .broken (text.length - (after.length + 1))

/-- Letters in the widest sense: those that another case makes a letter of ASCII. -/
private def isLetterInSomeCase (c : Char) : Bool :=
  isLetter c || ['\u0130', '\u0131', '\u017f', '\u212a'].contains c

private def isReference (text : Text) : Bool :=
  (referenceNameOf? (fun c => Text.isDigit c || isLetterInSomeCase c) text).isSome

private def escapeChar (c : Char) (rest : Text) : Text :=
  if c == '<' then "&lt;".toList
  else if c == '>' then "&gt;".toList
  else if c == '&' && !isReference (c :: rest) then "&amp;".toList
  else [c]

/-- Text as HTML; what already is a character reference stays one. -/
def escape : Text → Text
  | [] => []
  | c :: rest => escapeChar c rest ++ escape rest

def escapeAttribute : Text → Text
  | [] => []
  | c :: rest =>
      (if c == '\x22' then "&quot;".toList else escapeChar c rest) ++ escapeAttribute rest

end CommentSchema.Markdown.Html
