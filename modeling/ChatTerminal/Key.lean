import ChatTerminal.Text.Blank
import ChatTerminal.TextField
/-!
# Keys

The keys of a keyboard as the client tells them apart, and how they edit a text field.
-/

namespace ChatTerminal

namespace Key

inductive Code where
  | char (c : Char)
  | enter
  | escape
  | tab
  | backTab
  | up
  | down
  | left
  | right
  | backspace
  | delete
  | home
deriving Repr, DecidableEq

def names : List (String × Code) :=
  [("Enter", .enter), ("Esc", .escape), ("Tab", .tab), ("BackTab", .backTab), ("Up", .up),
    ("Down", .down), ("Left", .left), ("Right", .right), ("Backspace", .backspace),
    ("Delete", .delete), ("Home", .home)]

def Code.ofName? (name : List Char) : Option Code :=
  match name with
  | [c] => some (.char c)
  | _ => (names.find? fun (n, _) => n.toList == name).map (·.2)

end Key

/-- A key press, with the Control key held or not. -/
structure Key where
  code : Key.Code
  control : Bool := false
deriving Repr, DecidableEq

namespace Key

/-- Reads the name of a key; `Ctrl+` in front means that Control is held. -/
def ofName? (name : String) : Option Key :=
  match Text.dropLead? "Ctrl+".toList name.toList with
  | some rest => (Code.ofName? rest).map (⟨·, true⟩)
  | none => (Code.ofName? name.toList).map (⟨·, false⟩)

def ofChar (c : Char) : Key := ⟨.char c, false⟩

/-- The key that ends the program on every page. -/
def interrupt : Key := ⟨.char 'c', true⟩

end Key

/-- Edits a field with a key. Keys that edit nothing leave the field alone. -/
def TextField.press (f : TextField) : Key.Code → TextField
  | .char c => f.insert c
  | .backspace => f.backspace
  | .left => f.left
  | .right => f.right
  | _ => f

end ChatTerminal
