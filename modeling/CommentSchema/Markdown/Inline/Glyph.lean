import CommentSchema.Markdown.Element

/-! Text while it is searched for markup.  What a rule has found stands in the text as one
glyph that later rules do not look into: sealed marks or a finished element.  A draft is an
element whose texts are still to be searched. -/

namespace CommentSchema.Markdown.Inline

inductive Glyph where
  | mark (mark : Mark)
  | sealed (marks : Marks)
  | element (element : Element)

abbrev Glyphs := List Glyph

structure Draft where
  tag : Tag
  attributes : List (Text × Marks) := []
  verbatim : Bool := false
  text : Glyphs := []

/-- What a rule finds at some place: glyphs that stay, or what takes their place. -/
inductive Found where
  | skip (length : Nat)
  | seal (marks : Marks) (length : Nat)
  | draft (draft : Draft) (length : Nat)

/-- A search at one place, given the glyph before it. -/
abbrev Search := Option Glyph → Glyphs → Option Found

namespace Glyph

def char? : Glyph → Option Char
  | mark (.plain c) => some c
  | _ => none

def is (c : Char) (glyph : Glyph) : Bool := glyph.char? == some c

def isBlank (glyph : Glyph) : Bool := (glyph.char?.map Text.isBlank).getD false

def isWordChar (glyph : Glyph) : Bool := (glyph.char?.map Text.isWordChar).getD false

end Glyph

namespace Glyphs

def ofMarks (marks : Marks) : Glyphs := marks.map .mark

def trimLeft (glyphs : Glyphs) : Glyphs := glyphs.dropWhile Glyph.isBlank

def trim (glyphs : Glyphs) : Glyphs := (trimLeft (trimLeft glyphs).reverse).reverse

def after? : Text → Glyphs → Option Glyphs
  | [], glyphs => some glyphs
  | _ :: _, [] => none
  | c :: word, glyph :: rest => if glyph.is c then after? word rest else none

def isChar (c : Char) (glyph : Option Glyph) : Bool := (glyph.map (Glyph.is c)).getD false

def isWordChar (glyph : Option Glyph) : Bool := (glyph.map Glyph.isWordChar).getD false

end Glyphs

mutual
def textOf (element : Element) : Marks :=
  match element with
  | ⟨_, _, _, text, children⟩ => text ++ textOfEach children
termination_by structural element

def textOfEach (children : List (Element × Marks)) : Marks :=
  match children with
  | [] => []
  | (child, after) :: rest => textOf child ++ after ++ textOfEach rest
termination_by structural children
end

namespace Glyphs

def toMarks (glyphs : Glyphs) : Marks :=
  glyphs.flatMap fun
    | .mark mark => [mark]
    | .sealed marks => marks
    | .element element => textOf element

/-- The text up to the first element, and the elements with the text after each. -/
def settle : Glyphs → Marks × List (Element × Marks)
  | [] => ([], [])
  | .mark mark :: rest =>
      let (text, children) := settle rest
      (mark :: text, children)
  | .sealed marks :: rest =>
      let (text, children) := settle rest
      (marks ++ text, children)
  | .element element :: rest =>
      let (text, children) := settle rest
      ([], (element, text) :: children)

@[simp] theorem settle_ofMarks (marks : Marks) : settle (ofMarks marks) = (marks, []) := by
  induction marks with
  | nil => rfl
  | cons mark rest ih =>
      rw [show ofMarks (mark :: rest) = .mark mark :: ofMarks rest from rfl, settle, ih]

end Glyphs

/-- The element of a draft; `finish` searches its text. -/
def Draft.toElement (finish : Glyphs → Glyphs) (draft : Draft) : Element :=
  let base : Element :=
    { tag := draft.tag, attributes := draft.attributes, verbatim := draft.verbatim }
  if draft.verbatim then { base with text := draft.text.toMarks }
  else
    let (text, children) := (finish draft.text).settle
    { base with text, children }

end CommentSchema.Markdown.Inline
