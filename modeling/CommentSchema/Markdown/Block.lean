import CommentSchema.Markdown.Element
import CommentSchema.Markdown.Html
import CommentSchema.Markdown.Line
import CommentSchema.Markdown.Target

/-! The blocks of a document: paragraphs, headings, rules, code, quotations and lists.  The
source is taken apart at its empty lines, and each piece is read under the element that it
belongs to, which may be deep inside of what was read before. -/

namespace CommentSchema.Markdown

inductive Place where
  | document
  | compactItem
  | looseItem
  | indentedItem
  | quote
deriving DecidableEq, Repr

abbrev Reading := StateM Targets

namespace Block

def splitIndented (block : Marks) : Marks × Marks :=
  let (inside, outside) := go (Marks.lines block)
  (Marks.unlines inside, Marks.unlines outside)
where
  go : List Marks → List Marks × List Marks
    | [] => ([], [])
    | line :: rest =>
        if Line.isIndented line then
          let (inside, outside) := go rest
          (line.drop Line.indentWidth :: inside, outside)
        else if Marks.isAllBlank line then
          let (inside, outside) := go rest
          ([] :: inside, outside)
        else ([], line :: rest)

def unindent (level : Nat) (block : Marks) : Marks :=
  Marks.unlines <| (Marks.lines block).map fun line =>
    (Marks.unindent? (level * Line.indentWidth) line).getD line

def codeMarks (marks : Marks) : Marks :=
  marks.map fun
    | .plain '&' => .raw "&amp;".toList
    | .plain '<' => .raw "&lt;".toList
    | .plain '>' => .raw "&gt;".toList
    | mark => mark

def lastCode? (parent : Element) : Option Marks :=
  match parent.lastChild? with
  | some block =>
      match block.tag, block.children with
      | .preformatted, (code, _) :: _ => if code.tag == .code then some code.text else none
      | _, _ => none
  | none => none

def codeBlock (text : Marks) : Element :=
  { tag := .preformatted, children := [({ tag := .code, verbatim := true, text }, [])] }

def replaceLast (parent child : Element) : Element :=
  parent.changeLast fun (_, after) => (child, after)

def addCode (parent : Element) (block : Marks) : Element :=
  let text := codeMarks (Marks.trimRight block) ++ [Marks.newline]
  match lastCode? parent with
  | some before => replaceLast parent (codeBlock (before ++ Marks.newline :: text))
  | none => parent.append (codeBlock text)

/-- An empty line matters only after code. -/
def addEmptyLine (parent : Element) (filler : Marks) : Element :=
  match lastCode? parent with
  | some before => replaceLast parent (codeBlock (before ++ filler))
  | none => parent

def addParagraph (place : Place) (parent : Element) (block : Marks) : Element :=
  if Marks.isAllBlank block then parent
  else
    let text := Marks.trimLeft block
    match place, parent.children with
    | .compactItem, [] =>
        if parent.text.isEmpty then { parent with text }
        else { parent with text := parent.text ++ Marks.newline :: text }
    | .compactItem, _ :: _ =>
        parent.changeLast fun (child, after) => (child, after ++ Marks.newline :: block)
    | _, _ => parent.append { tag := .paragraph, text }

/-- A text that an item begins with becomes a paragraph. -/
def wrapText (item : Element) : Element :=
  if item.text.isEmpty then item
  else
    { item with
      text := [], children := ({ tag := .paragraph, text := item.text }, []) :: item.children }

/-- A text after the last child of an item becomes a paragraph. -/
def wrapAfter (item : Element) : Element :=
  match item.children.getLast? with
  | some (_, after) =>
      if after.isEmpty then item
      else
        (item.changeLast fun (child, _) => (child, [])).append
          { tag := .paragraph, text := Marks.trimLeft after }
  | none => item

/-- The items of a block, nested items with their indentation. -/
def items (block : Marks) : List Marks := (go [] (Marks.lines block)).reverse
where
  extend (line : Marks) : List Marks → List Marks
    | last :: others => (last ++ Marks.newline :: line) :: others
    | [] => [line]
  go (found : List Marks) : List Marks → List Marks
    | [] => found
    | line :: rest =>
        match Line.item? line with
        | some text => go (text :: found) rest
        | none =>
            if Line.isNestedItem line && !(found.head?.map Line.isIndented).getD true then
              go (line :: found) rest
            else go (extend line found) rest

private def endsPath (element : Element) : Bool :=
  match element.lastChild? with
  | some child => !(child.tag.isList || child.tag == .item)
  | none => true

/-- How deep an indented block belongs: the level of its indentation and the number of
steps from the parent to the element it belongs to, by way of last children. -/
def levelOf (place : Place) (parent : Element) (block : Marks) : Nat × Nat :=
  let indent := Marks.indent block / Line.indentWidth
  descend (indent * 2 + 2) indent (if place == .compactItem then 1 else 0) 0 parent
where
  descend : Nat → Nat → Nat → Nat → Element → Nat × Nat
    | 0, _, level, steps, _ => (level, steps)
    | bound + 1, indent, level, steps, element =>
        if indent ≤ level || endsPath element then (level, steps)
        else
          match element.lastChild? with
          | some child =>
              descend bound indent (if child.tag.isList then level + 1 else level) (steps + 1) child
          | none => (level, steps)

/-- Change the element that lies some steps down the last children. -/
def changeDown (change : Element → Reading Element) : Nat → Element → Reading Element
  | 0, element => change element
  | steps + 1, element =>
      match element.lastChild? with
      | some child => do pure (replaceLast element (← changeDown change steps child))
      | none => pure element

private def isNumbered (block : Marks) : Bool :=
  ((Marks.lines block).head?.bind Line.numberedItem?).isSome

private def isBulleted (block : Marks) : Bool :=
  ((Marks.lines block).head?.bind Line.bulletedItem?).isSome

private def unquote (line : Marks) : Marks :=
  match Marks.trim line with
  | [mark] => if mark.is '>' then [] else (Line.quoted? line).getD line
  | _ => (Line.quoted? line).getD line

private def rule? (line : Marks) : Option Unit := if Line.isRule line then some () else none

private def quote? (line : Marks) : Option Marks := (Line.quoted? line).map fun _ => line

private def nonempty (block : Marks) : List Marks := if block.isEmpty then [] else [block]

private def nonblank (block : Marks) : List Marks := if Marks.isAllBlank block then [] else [block]

/-- What a block turns out to be.  What stands before it on earlier lines is read before,
what follows on later lines is read after it. -/
inductive Shape where
  | empty (filler rest : Marks)
  | indented
  | code (text rest : Marks)
  | heading (before : Marks) (level : Nat) (text rest : Marks)
  | rule (before rest : Marks)
  | list (tag : Tag)
  | quote (before inside : Marks)
  | targets (before : Marks) (targets : Targets) (rest : Marks)
  | paragraph

private def isIndentedItem (place : Place) (parent : Element) : Bool :=
  place != .indentedItem
    && (parent.tag == .item || (parent.lastChild?.map (·.tag.isList)).getD false)

private def underlined? (lines : List Marks) : Option Shape :=
  match lines with
  | text :: line :: rest =>
      (Line.underline? line).map fun level =>
        .heading [] level (Marks.trim text) (Marks.unlines rest)
  | _ => none

private def plainShape (block : Marks) : Shape :=
  let lines := Marks.lines block
  match Line.split? rule? lines with
  | some (before, (), rest) =>
      .rule (Marks.trimRightNewlines (Marks.unlines before))
        (Marks.dropNewlines (Marks.unlines rest))
  | none =>
      if isNumbered block then .list .numberedList
      else if isBulleted block then .list .bulletList
      else
        match Line.split? quote? lines with
        | some (before, line, rest) =>
            .quote (Marks.unlines before) (Marks.unlines ((line :: rest).map unquote))
        | none =>
            match Target.find? block with
            | some (before, targets, rest) =>
                .targets (Marks.trimRightNewlines before) targets (Marks.dropNewlines rest)
            | none => .paragraph

def shape (place : Place) (parent : Element) (block : Marks) : Shape :=
  match block with
  | [] => .empty [Marks.newline, Marks.newline] []
  | mark :: rest =>
      if mark.is '\n' then .empty [Marks.newline] rest
      else if Line.isIndented block then
        if isIndentedItem place parent then .indented
        else
          let (text, rest) := splitIndented block
          .code text rest
      else
        let lines := Marks.lines block
        match Line.split? Line.heading? lines with
        | some (before, (level, text), rest) =>
            .heading (Marks.unlines before) level text (Marks.unlines rest)
        | none => (underlined? lines).getD (plainShape block)

mutual
def readBlocks : Nat → Place → Element → List Marks → Reading Element
  | _, _, parent, [] => pure parent
  | 0, _, parent, _ => pure parent
  | steps + 1, place, parent, block :: others =>
      match shape place parent block with
      | .empty filler rest =>
          readBlocks steps place (addEmptyLine parent filler) (nonempty rest ++ others)
      | .indented => do
          let parent ← readIndented steps place parent block
          readBlocks steps place parent others
      | .code text rest => readBlocks steps place (addCode parent text) (nonempty rest ++ others)
      | .heading before level text rest => do
          let parent ← readBlocks steps place parent (nonempty before)
          let rest := if place == .looseItem then unindent 1 rest else rest
          readBlocks steps place (parent.append { tag := .heading level, text })
            (nonempty rest ++ others)
      | .rule before rest => do
          let parent ← readBlocks steps place parent (nonempty before)
          readBlocks steps place (parent.append { tag := .rule }) (nonempty rest ++ others)
      | .list tag => do
          let parent ← readList steps tag parent (items block)
          readBlocks steps place parent others
      | .quote before inside => do
          let parent ← readBlocks steps place parent (nonempty before)
          let parent ← readQuote steps parent inside
          readBlocks steps place parent others
      | .targets before found rest => do
          modify fun targets => found.reverse ++ targets
          readBlocks steps place parent (nonblank before ++ nonblank rest ++ others)
      | .paragraph => readBlocks steps place (addParagraph place parent block) others

/-- An indented block belongs to the item above it. -/
def readIndented : Nat → Place → Element → Marks → Reading Element
  | 0, _, parent, _ => pure parent
  | steps + 1, place, parent, block =>
      let (level, depth) := levelOf place parent block
      let block := unindent level block
      if parent.tag == .item then
        match parent.lastChild? with
        | some child =>
            if child.tag.isList then do
              pure (replaceLast parent (← readBlocks steps .indentedItem child [block]))
            else readBlocks steps .indentedItem parent [block]
        | none => readBlocks steps .indentedItem parent [block]
      else changeDown (fun owner => readInto steps owner block) depth parent

def readInto : Nat → Element → Marks → Reading Element
  | 0, owner, _ => pure owner
  | steps + 1, owner, block =>
      if owner.tag == .item then readBlocks steps .indentedItem owner [block]
      else
        match owner.lastChild? with
        | some child =>
            if child.tag == .item then do
              pure (replaceLast owner
                (← readBlocks steps .indentedItem (wrapText child) (Marks.blocks block)))
            else do pure (owner.append (← readBlocks steps .indentedItem { tag := .item } [block]))
        | none => do pure (owner.append (← readBlocks steps .indentedItem { tag := .item } [block]))

/-- Items go on with the list above them or begin a list. -/
def readList : Nat → Tag → Element → List Marks → Reading Element
  | 0, _, parent, _ => pure parent
  | steps + 1, tag, parent, items =>
      match parent.lastChild? with
      | some child =>
          if child.tag.isList then
            match items with
            | first :: others => do
                let list := match child.lastChild? with
                  | some item => replaceLast child (wrapAfter (wrapText item))
                  | none => child
                let item ← readBlocks steps .looseItem { tag := .item } [first]
                pure (replaceLast parent (← readItems steps (list.append item) others))
            | [] => pure parent
          else if parent.tag.isList then readItems steps parent items
          else do pure (parent.append (← readItems steps { tag } items))
      | none =>
          if parent.tag.isList then readItems steps parent items
          else do pure (parent.append (← readItems steps { tag } items))

def readItems : Nat → Element → List Marks → Reading Element
  | _, list, [] => pure list
  | 0, list, _ => pure list
  | steps + 1, list, item :: others =>
      match Line.isIndented item, list.lastChild? with
      | true, some last => do
          let last ← readBlocks steps .compactItem last [item]
          readItems steps (replaceLast list last) others
      | _, _ => do
          let new ← readBlocks steps .compactItem { tag := .item } [item]
          readItems steps (list.append new) others

/-- Quoted blocks go on with the quotation above them or begin one. -/
def readQuote : Nat → Element → Marks → Reading Element
  | 0, parent, _ => pure parent
  | steps + 1, parent, inside =>
      match parent.lastChild? with
      | some child =>
          if child.tag == .quote then do
            pure (replaceLast parent (← readBlocks steps .quote child (Marks.blocks inside)))
          else do
            pure (parent.append (← readBlocks steps .quote { tag := .quote } (Marks.blocks inside)))
      | none => do
          pure (parent.append (← readBlocks steps .quote { tag := .quote } (Marks.blocks inside)))
end

def read (source : Marks) : Element × Targets :=
  (readBlocks (8 * (source.length + 4)) .document { tag := .document } (Marks.blocks source)).run []

end Block

end CommentSchema.Markdown
