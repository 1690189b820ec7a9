import CommentSchema.Markdown.Mark

/-! Documents as trees of elements.  An element holds a text and then its children, each of
them followed by a text of its own; a verbatim text is not searched for markup. -/

namespace CommentSchema.Markdown

inductive Tag where
  | document
  | paragraph
  | heading (level : Nat)
  | rule
  | bulletList
  | numberedList
  | item
  | quote
  | preformatted
  | code
  | link
  | image
  | emphasis
  | strong
  | lineBreak
deriving DecidableEq, Repr

namespace Tag

def name : Tag → Text
  | document => "div".toList
  | paragraph => "p".toList
  | heading level => 'h' :: Text.ofNat level
  | rule => "hr".toList
  | bulletList => "ul".toList
  | numberedList => "ol".toList
  | item => "li".toList
  | quote => "blockquote".toList
  | preformatted => "pre".toList
  | code => "code".toList
  | link => "a".toList
  | image => "img".toList
  | emphasis => "em".toList
  | strong => "strong".toList
  | lineBreak => "br".toList

def isList (tag : Tag) : Bool := tag == bulletList || tag == numberedList

def isBlock : Tag → Bool
  | code | link | image | emphasis | strong | lineBreak => false
  | _ => true

def isVoid : Tag → Bool
  | rule | image | lineBreak => true
  | _ => false

end Tag

structure Element where
  tag : Tag
  attributes : List (Text × Marks) := []
  verbatim : Bool := false
  text : Marks := []
  children : List (Element × Marks) := []

namespace Element

def lastChild? (element : Element) : Option Element := element.children.getLast?.map (·.1)

def append (element child : Element) : Element :=
  { element with children := element.children ++ [(child, [])] }

def changeLast (element : Element) (change : Element × Marks → Element × Marks) : Element :=
  match element.children.getLast? with
  | some last => { element with children := element.children.dropLast ++ [change last] }
  | none => element

end Element

end CommentSchema.Markdown
