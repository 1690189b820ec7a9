import CommentSchema.Markdown.Inline.Glyph
import CommentSchema.Text.Punctuation

/-! Emphasis between runs of asterisks or of underscores.  Whether emphasis can begin or end
with a run depends on what stands on both sides of it.  A run that ends emphasis goes with the
nearest one of its sign that can begin it; two signs of each make strong emphasis, one makes
plain emphasis, and signs without a partner are text. -/

namespace CommentSchema.Markdown.Inline

inductive Side where
  | blank
  | punctuation
  | word
deriving DecidableEq, Repr

/-- The ends of a text count as blank, and what another rule has found as part of a word. -/
def Side.of : Option Glyph → Side
  | none => blank
  | some glyph =>
      match glyph.char? with
      | some c =>
          if Text.isBlank c then blank
          else if Text.isPunctuation c then punctuation
          else word
      | none => word

structure Run where
  sign : Char
  count : Nat
  opens : Bool
  closes : Bool
deriving DecidableEq, Repr

namespace Run

/-- Whether a run is attached to what stands on one side of it, given the other side. -/
def attached (side other : Side) : Bool :=
  side == .word || (side == .punctuation && other != .word)

/-- Inside of a word only asterisks mark emphasis. -/
def between (sign : Char) (count : Nat) (before after : Side) : Run :=
  let left := attached after before
  let right := attached before after
  if sign == '*' then { sign, count, opens := left, closes := right }
  else
    { sign, count, opens := left && (!right || before == .punctuation),
      closes := right && (!left || after == .punctuation) }

/-- Whether a run ends what another one began.  If it could begin something itself, their
lengths must not add up to a multiple of three, unless both are one. -/
def answers (closing opening : Run) : Bool :=
  closing.sign == opening.sign
    && (!closing.opens || (closing.count + opening.count) % 3 != 0
      || (closing.count % 3 == 0 && opening.count % 3 == 0))

def signs (run : Run) (count : Nat) : Glyphs := List.replicate count (.mark (.plain run.sign))

end Run

/-- A run with which emphasis may begin: how many of its signs are left, and the text after
it. -/
structure Opener where
  run : Run
  left : Nat
  text : Glyphs

namespace Opener

def literal (opener : Opener) : Glyphs := opener.run.signs opener.left ++ opener.text

end Opener

/-- Text in which emphasis may have begun, the innermost beginning first. -/
structure Unsettled where
  text : Glyphs := []
  openers : List Opener := []

namespace Unsettled

def append (state : Unsettled) (glyphs : Glyphs) : Unsettled :=
  match state.openers with
  | [] => { state with text := state.text ++ glyphs }
  | opener :: outer =>
      { state with openers := { opener with text := opener.text ++ glyphs } :: outer }

def settled (state : Unsettled) : Glyphs :=
  state.text ++ state.openers.reverse.flatMap Opener.literal

/-- How many of the signs that both runs have left are used at once: two for strong
emphasis, one for plain emphasis, which comes first if there are three. -/
def usedOf (signs : Nat) : Nat := if signs == 2 || 3 < signs then 2 else 1

def emphasized (signs : Nat) (text : Glyphs) : Glyph :=
  let (text, children) := text.settle
  .element { tag := if signs == 2 then .strong else .emphasis, text, children }

/-- Close emphasis with the signs that are left of a run, as long as any was begun. -/
def close (run : Run) : Nat → Nat → Unsettled → Nat × Unsettled
  | 0, left, state => (left, state)
  | steps + 1, left, state =>
      let inner := state.openers.takeWhile fun opener => !run.answers opener.run
      match state.openers.drop inner.length with
      | [] => (left, state)
      | opener :: outer =>
          let used := usedOf (min left opener.left)
          let text := opener.text ++ inner.reverse.flatMap Opener.literal
          let found := emphasized used text
          let state :=
            if opener.left == used then { state with openers := outer }.append [found]
            else
              let opener := { opener with left := opener.left - used, text := [found] }
              { state with openers := opener :: outer }
          if left == used then (0, state) else close run steps (left - used) state

def addRun (state : Unsettled) (run : Run) : Unsettled :=
  let (left, state) :=
    if run.closes then close run run.count run.count state else (run.count, state)
  if left == 0 then state
  else if run.opens then { state with openers := { run, left, text := [] } :: state.openers }
  else state.append (run.signs left)

end Unsettled

def sign? (glyph : Glyph) : Option Char :=
  if glyph.is '*' then some '*' else if glyph.is '_' then some '_' else none

/-- Pass over glyphs, the first `skipped` of which were seen together with one before. -/
def emphasizeFrom : Nat → Unsettled → Option Glyph → Glyphs → Unsettled
  | _, state, _, [] => state
  | skipped + 1, state, _, glyph :: rest => emphasizeFrom skipped state (some glyph) rest
  | 0, state, last, glyph :: rest =>
      match sign? glyph with
      | none =>
          let more := rest.takeWhile fun glyph => (sign? glyph).isNone
          emphasizeFrom more.length (state.append (glyph :: more)) (some glyph) rest
      | some sign =>
          let more := (rest.takeWhile (Glyph.is sign)).length
          let run := Run.between sign (more + 1) (.of last) (.of (rest.drop more).head?)
          emphasizeFrom more (state.addRun run) (some glyph) rest

def emphasize (glyphs : Glyphs) : Glyphs := (emphasizeFrom 0 {} none glyphs).settled

end CommentSchema.Markdown.Inline
