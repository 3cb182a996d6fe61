import ChatTerminal.Screen.Line
/-!
# Fitting lines into a width

A line is either cut where it no longer fits or wrapped between words. Wrapping keeps what it has
read in three parts: the line under way, the blanks behind it, and the word behind the blanks. A
word longer than a whole line is broken.
-/

namespace ChatTerminal.Screen

/-- The glyphs that fit into a width. A glyph wider than the whole width is left out. -/
def cutFrom (limit used : Nat) : List Glyph → List Glyph
  | [] => []
  | g :: gs =>
    if limit < g.width then cutFrom limit used gs
    else if limit < used + g.width then []
    else g :: cutFrom limit (used + g.width) gs

def cut (limit : Nat) (gs : List Glyph) : List Glyph := cutFrom limit 0 gs

structure Wrapping where
  /-- The finished lines, the last one first. -/
  finished : List (List Glyph) := []
  line : List Glyph := []
  blanks : List Glyph := []
  word : List Glyph := []
  /-- The last glyph belonged to a word. -/
  inWord : Bool := false
deriving Repr, DecidableEq

namespace Wrapping

/-- Blanks at the start of a line are dropped when trimming. -/
def joined (trim : Bool) (w : Wrapping) : List Glyph :=
  (if w.line.isEmpty && trim then [] else w.line ++ w.blanks) ++ w.word

/-- Moves the blanks and the word to the line. -/
def settle (trim : Bool) (w : Wrapping) : Wrapping :=
  { w with line := w.joined trim, blanks := [], word := [] }

/-- Drops the blanks that still fit behind a finished line. -/
def dropFitting : Nat → List Glyph → List Glyph
  | _, [] => []
  | room, g :: gs => if room < g.width then g :: gs else dropFitting (room - g.width) gs

def push (w : Wrapping) (g : Glyph) : Wrapping :=
  if g.isBreak then { w with blanks := w.blanks ++ [g], inWord := false }
  else { w with word := w.word ++ [g], inWord := true }

def overflows (limit : Nat) (trim : Bool) (w : Wrapping) (g : Glyph) : Bool :=
  w.line.isEmpty &&
    if trim then
      limit < widthOf w.word + g.width || limit < widthOf w.blanks + g.width
    else limit < widthOf w.word + widthOf w.blanks + g.width

def isFull (limit : Nat) (w : Wrapping) (g : Glyph) : Bool :=
  limit ≤ widthOf w.line ||
    (0 < g.width && limit ≤ widthOf w.line + widthOf w.blanks + widthOf w.word)

def step (limit : Nat) (trim : Bool) (w : Wrapping) (g : Glyph) : Wrapping :=
  if limit < g.width then w
  else
    let w := if (w.inWord && g.isBreak) || w.overflows limit trim g then w.settle trim else w
    if w.isFull limit g then
      let w := { w with
        finished := w.line :: w.finished
        line := []
        blanks := dropFitting (limit - widthOf w.line) w.blanks }
      if g.isBreak && w.blanks.isEmpty then w else w.push g
    else w.push g

def finish (trim : Bool) (w : Wrapping) : List (List Glyph) :=
  let finished :=
    if w.line.isEmpty && w.word.isEmpty && !w.blanks.isEmpty then [] :: w.finished else w.finished
  let last := w.joined trim
  let all := if last.isEmpty then finished else last :: finished
  if all.isEmpty then [[]] else all.reverse

end Wrapping

def wrap (limit : Nat) (trim : Bool) (gs : List Glyph) : List (List Glyph) :=
  (gs.foldl (Wrapping.step limit trim) {}).finish trim

end ChatTerminal.Screen
