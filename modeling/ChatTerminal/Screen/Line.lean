import ChatTerminal.Screen.Canvas
import ChatTerminal.Text.Blank
import ChatTerminal.Text.Cluster
/-!
# Lines of styled text

A line is a row of spans, each of one style; a glyph is a cluster in its style. Control characters
are not shown.
-/

namespace ChatTerminal.Screen

structure Span where
  text : String
  style : Style := {}
deriving Repr, DecidableEq

abbrev Line := List Span

structure Glyph where
  symbol : List Char
  style : Style
deriving Repr, DecidableEq

namespace Glyph

def width (g : Glyph) : Nat := Text.columns g.symbol

/-- A line may be broken at the glyph: it is blank, but no hard space, or it is the invisible
space. -/
def isBreak (g : Glyph) : Bool :=
  g.symbol == [Char.ofNat 0x200B] ||
    (g.symbol.all Text.isBlank && g.symbol != [Char.ofNat 0xA0])

end Glyph

def widthOf (gs : List Glyph) : Nat := gs.foldr (fun g columns => g.width + columns) 0

def Span.glyphs (s : Span) : List Glyph :=
  ((Text.clusters s.text.toList).filter fun symbol => !symbol.any Text.isControl).map (⟨·, s.style⟩)

/-- The columns of the text of a span, control characters included. -/
def Span.width (s : Span) : Nat := Text.columns s.text.toList

namespace Line

def glyphs (l : Line) : List Glyph := l.flatMap Span.glyphs

def width (l : Line) : Nat := l.foldr (fun span columns => span.width + columns) 0

def styled (text : String) (style : Style) : Line := [⟨text, style⟩]

/-- A line without a style. Line ends in the text are dropped. -/
def plain (text : String) : Line :=
  (Text.lines text.toList).map fun part => ⟨String.ofList part, {}⟩

/-- The lines of a text without a style; an empty text is one empty line. -/
def ofText (text : String) : List Line :=
  if text.isEmpty then [[]] else (Text.lines text.toList).map fun l => [⟨String.ofList l, {}⟩]

end Line

end ChatTerminal.Screen
