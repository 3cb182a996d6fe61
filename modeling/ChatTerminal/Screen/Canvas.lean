/-!
# The canvas

A canvas is a grid of cells, each with a symbol, two colours and a weight. Drawing outside the
canvas changes nothing.
-/

namespace ChatTerminal.Screen

inductive Color where
  | reset
  | cyan
  | gray
  | darkGray
  | white
  | yellow
  | green
  | red
  | magenta
deriving Repr, DecidableEq

/-- A change of style. What is not set stays as it is. -/
structure Style where
  fg : Option Color := none
  bg : Option Color := none
  bold : Bool := false
deriving Repr, DecidableEq

namespace Style

def plain : Style := {}

def colored (c : Color) : Style := { fg := some c }

def strong (c : Color) : Style := { fg := some c, bold := true }

end Style

structure Cell where
  symbol : List Char := [' ']
  fg : Color := .reset
  bg : Color := .reset
  bold : Bool := false
deriving Repr, DecidableEq

def Cell.styled (c : Cell) (s : Style) : Cell :=
  { c with fg := s.fg.getD c.fg, bg := s.bg.getD c.bg, bold := c.bold || s.bold }

structure Area where
  x : Nat
  y : Nat
  width : Nat
  height : Nat
deriving Repr, DecidableEq

namespace Area

def right (a : Area) : Nat := a.x + a.width

def bottom (a : Area) : Nat := a.y + a.height

def isEmpty (a : Area) : Bool := a.width == 0 || a.height == 0

def inner (a : Area) : Area :=
  ⟨min (a.x + 1) a.right, min (a.y + 1) a.bottom, a.width - 2, a.height - 2⟩

/-- The columns of an area from `left` up to `right`, which is not among them. -/
def columns (a : Area) (left right : Nat) : Area :=
  { a with x := a.x + left, width := right - left }

/-- The rows of an area from `top` up to `bottom`, which is not among them. -/
def rows (a : Area) (top bottom : Nat) : Area :=
  { a with y := a.y + top, height := bottom - top }

end Area

structure Canvas where
  rows : Array (Array Cell)
deriving Repr, DecidableEq

namespace Canvas

def blank (width height : Nat) : Canvas :=
  ⟨Array.replicate height (Array.replicate width {})⟩

def modify (k : Canvas) (x y : Nat) (f : Cell → Cell) : Canvas :=
  ⟨k.rows.modify y (·.modify x f)⟩

def modifyArea (k : Canvas) (a : Area) (f : Cell → Cell) : Canvas :=
  ⟨(List.range' a.y a.height).foldl (fun rows y =>
    rows.modify y fun row => (List.range' a.x a.width).foldl (fun row x => row.modify x f) row)
    k.rows⟩

def put (k : Canvas) (x y : Nat) (symbol : List Char) (s : Style) : Canvas :=
  k.modify x y fun c => { c.styled s with symbol := symbol }

def append (k : Canvas) (x y : Nat) (mark : List Char) (s : Style) : Canvas :=
  k.modify x y fun c => { c.styled s with symbol := c.symbol ++ mark }

def erase (k : Canvas) (x y : Nat) : Canvas := k.modify x y fun _ => {}

def clear (k : Canvas) (a : Area) : Canvas := k.modifyArea a fun _ => {}

def tint (k : Canvas) (a : Area) (s : Style) : Canvas := k.modifyArea a (·.styled s)

def cell? (k : Canvas) (x y : Nat) : Option Cell := (k.rows[y]?).bind (·[x]?)

end Canvas

end ChatTerminal.Screen
