import ChatTerminal.Screen.Wrap
/-!
# Widgets

What is painted into an area: nothing at all, a style, a box with a title, a text or a list of
rows. A scene is a row of widgets in their areas, painted in order, and the place of the cursor.
-/

namespace ChatTerminal.Screen

/-- How the lines of a text are fitted into its area. -/
inductive Fit where
  | cut
  | centered
  | wrapped
  /-- Wrapped, without the blanks at the start of each line. -/
  | trimmed
deriving Repr, DecidableEq

inductive Widget where
  | clear
  | tint (style : Style)
  | box (title : Line) (border : Style)
  | text (lines : List Line) (fit : Fit)
  | rows (lines : List Line)
deriving Repr, DecidableEq

namespace Canvas

/-- Paints glyphs from a column on. A glyph of no width is not painted. -/
def paintGlyphs (k : Canvas) (x y : Nat) : List Glyph → Canvas
  | [] => k
  | g :: gs =>
    if g.width = 0 then paintGlyphs k x y gs
    else paintGlyphs (k.put x y g.symbol g.style) (x + g.width) y gs

/-- Paints the glyphs of a span from a column on, up to the column `right`. A glyph of no width
joins the cell before it; the first cell takes in all glyphs that come before it is passed. The
cells under a wide glyph are emptied. -/
def paintSpanFrom (k : Canvas) (left x y right : Nat) (first : Bool) : List Glyph → Canvas
  | [] => k
  | g :: gs =>
    let after := x + g.width
    if right < after then k
    else
      let k :=
        if first then k.put x y g.symbol g.style
        else if x = left then k.append x y g.symbol g.style
        else if g.width = 0 then k.append (x - 1) y g.symbol g.style
        else k.put x y g.symbol g.style
      let k := (List.range' (x + 1) (g.width - 1)).foldl (fun k x => k.erase x y) k
      paintSpanFrom k left after y right false gs

def paintSpans (k : Canvas) (x y right : Nat) : Line → Canvas
  | [] => k
  | s :: more =>
    if s.width = 0 then paintSpans k x y right more
    else if right ≤ x then k
    else paintSpans (k.paintSpanFrom x x y right true s.glyphs) (x + s.width) y right more

def paintBox (k : Canvas) (a : Area) (title : Line) (border : Style) : Canvas :=
  if a.isEmpty then k
  else
    let right := a.right - 1
    let bottom := a.bottom - 1
    let side (k : Canvas) (cells : Area) (symbol : Char) : Canvas :=
      k.modifyArea cells fun c => { c.styled border with symbol := [symbol] }
    let k := side k ⟨a.x, a.y, 1, a.height⟩ '│'
    let k := side k ⟨a.x, a.y, a.width, 1⟩ '─'
    let k := side k ⟨right, a.y, 1, a.height⟩ '│'
    let k := side k ⟨a.x, bottom, a.width, 1⟩ '─'
    let k := k.put right bottom ['┘'] border
    let k := k.put right a.y ['┐'] border
    let k := k.put a.x bottom ['└'] border
    let k := k.put a.x a.y ['┌'] border
    k.paintSpans (a.x + 1) a.y (a.x + 1 + min title.width (a.width - 2)) title

def fitted (lines : List Line) (fit : Fit) (width : Nat) : List (List Glyph) :=
  match fit with
  | .cut | .centered => lines.map fun l => Screen.cut width l.glyphs
  | .wrapped => lines.flatMap fun l => wrap width false l.glyphs
  | .trimmed => lines.flatMap fun l => wrap width true l.glyphs

def offsetOf (fit : Fit) (width : Nat) (gs : List Glyph) : Nat :=
  match fit with
  | .centered => width / 2 - widthOf gs / 2
  | _ => 0

def paintText (k : Canvas) (a : Area) (lines : List Line) (fit : Fit) : Canvas :=
  if a.isEmpty then k
  else
    (((fitted lines fit a.width).take a.height).zipIdx a.y).foldl (fun k (gs, y) =>
      k.paintGlyphs (a.x + offsetOf fit a.width gs) y gs) k

def paintRows (k : Canvas) (a : Area) (lines : List Line) : Canvas :=
  if a.isEmpty then k
  else
    ((lines.take a.height).zipIdx a.y).foldl (fun k (l, y) => k.paintSpans a.x y a.right l) k

def paint (k : Canvas) (a : Area) : Widget → Canvas
  | .clear => k.clear a
  | .tint s => k.tint a s
  | .box title border => k.paintBox a title border
  | .text lines fit => k.paintText a lines fit
  | .rows lines => k.paintRows a lines

end Canvas

/-- What a screen shows: widgets in their areas, in the order in which they are painted, and the
cursor, if it is shown. -/
structure Scene where
  widgets : List (Area × Widget) := []
  cursor : Option (Nat × Nat) := none
deriving Repr, DecidableEq

namespace Scene

/-- One scene over another. The cursor of the upper scene wins. -/
def above (upper lower : Scene) : Scene :=
  ⟨lower.widgets ++ upper.widgets, upper.cursor.or lower.cursor⟩

def paint (s : Scene) (width height : Nat) : Canvas :=
  s.widgets.foldl (fun k (a, w) => k.paint a w) (.blank width height)

end Scene

end ChatTerminal.Screen
