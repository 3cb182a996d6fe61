import ChatTerminal.Screen.Layout
import ChatTerminal.Screen.Widget
import ChatTerminal.TextField
/-!
# Forms on the screen

A form shows each field as two lines, its label and its text. The cursor stands in the text of
the field with the focus.
-/

namespace ChatTerminal.View

open Screen

structure Entry where
  label : String
  field : TextField
  focused : Bool

namespace Entry

def style (e : Entry) : Style := .colored (if e.focused then .cyan else .gray)

def lines (e : Entry) : List Line :=
  [[⟨e.label, e.style⟩], [⟨"> ", e.style⟩, ⟨e.field.display, .colored .white⟩]]

end Entry

def cursorOf (inner : Area) (first : Nat) (entries : List Entry) : Option (Nat × Nat) :=
  ((entries.zipIdx.filter fun (e, _) => e.focused).getLast?).map fun (e, i) =>
    (inner.x + 2 + e.field.column, inner.y + first + 2 * i + 1)

def notice (text : String) (c : Color) : List Line :=
  if text.isEmpty then [] else [Line.styled text (.colored c)]

end ChatTerminal.View
