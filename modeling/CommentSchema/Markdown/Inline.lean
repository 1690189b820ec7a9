import CommentSchema.Markdown.Inline.Emphasis
import CommentSchema.Markdown.Inline.Link
import CommentSchema.Markdown.Inline.Literal

/-! The search for markup inside of text.  The rules are applied one after the other, each
in one pass over the text, and what is found is itself searched by the rules that are still to
come; emphasis comes last.  Afterwards the texts of elements inside of elements are searched
anew. -/

namespace CommentSchema.Markdown

namespace Inline

/-- The rules in the order in which they are applied. -/
inductive Rule where
  | code
  | escape
  | namedLink
  | link
  | image
  | namedImage
  | selfNamedLink
  | selfNamedImage
  | webAddress
  | mailAddress
  | lineBreak
  | html
  | entity
deriving DecidableEq, Repr

namespace Rule

def all : List Rule :=
  [code, escape, namedLink, link, image, namedImage, selfNamedLink, selfNamedImage, webAddress,
    mailAddress, lineBreak, html, entity]

def search (targets : Targets) : Rule → Search
  | code => code?
  | escape => escape?
  | namedLink => named? targets false
  | link => direct? false
  | image => direct? true
  | namedImage => named? targets true
  | selfNamedLink => selfNamed? targets false
  | selfNamedImage => selfNamed? targets true
  | webAddress => webAddress?
  | mailAddress => mailAddress?
  | lineBreak => lineBreak?
  | html => html?
  | entity => entity?

end Rule

inductive Passing where
  | keep
  | drop

/-- One pass of a search, which goes on right after what it finds; `finish` takes care of the
text of a draft.  The first `count` glyphs are passed over. -/
def pass (search : Search) (finish : Glyphs → Glyphs) :
    Nat → Passing → Option Glyph → Glyphs → Glyphs
  | _, _, _, [] => []
  | count + 1, .keep, _, glyph :: rest => glyph :: pass search finish count .keep (some glyph) rest
  | count + 1, .drop, last, _ :: rest => pass search finish count .drop last rest
  | 0, _, last, glyph :: rest =>
      match search last (glyph :: rest) with
      | none => glyph :: pass search finish 0 .keep (some glyph) rest
      | some (.skip length) =>
          glyph :: pass search finish (length - 1) .keep (some glyph) rest
      | some (.seal marks length) =>
          .sealed marks :: pass search finish (length - 1) .drop (some (.sealed marks)) rest
      | some (.draft draft length) =>
          let element := Glyph.element (draft.toElement finish)
          element :: pass search finish (length - 1) .drop (some element) rest

def applyRules (targets : Targets) : List Rule → Glyphs → Glyphs
  | [], glyphs => emphasize glyphs
  | rule :: later, glyphs =>
      applyRules targets later
        (pass (rule.search targets) (applyRules targets later) 0 .keep none glyphs)

section

variable (targets : Targets)

def searchText (marks : Marks) : Marks × List (Element × Marks) :=
  (applyRules targets Rule.all (Glyphs.ofMarks marks)).settle

mutual
def searchElement : Nat → Element → Element
  | 0, element => element
  | steps + 1, element => { element with children := searchChildren steps element.children }

def searchChildren : Nat → List (Element × Marks) → List (Element × Marks)
  | _, [] => []
  | 0, children => children
  | steps + 1, (child, after) :: others =>
      let (text, found) :=
        if child.verbatim then (child.text, []) else searchText targets child.text
      let child :=
        if child.children.isEmpty then
          { child with
            text, children := found.map fun (inner, after) => (searchElement steps inner, after) }
        else searchElement steps { child with text, children := found ++ child.children }
      let (after, following) := searchText targets after
      (child, after) :: searchChildren steps (following ++ others)
end

end

/-- The document with all markup in its texts; `size` bounds how long the texts are. -/
def search (size : Nat) (document : Element) (targets : Targets) : Element :=
  searchElement targets (40 * (size + 4)) document

end Inline

end CommentSchema.Markdown
