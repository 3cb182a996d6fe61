import ChatTerminal.Text.Utf8
/-!
# Text fields

A single line of editable text with a cursor. The cursor counts bytes and stands between
characters. A masked field shows one bullet for each of its characters.
-/

namespace ChatTerminal

structure TextField where
  value : String := ""
  /-- Bytes before the cursor. -/
  cursor : Nat := 0
  masked : Bool := false
deriving Repr, DecidableEq

namespace TextField

def hidden : TextField := { masked := true }

def isEmpty (f : TextField) : Bool := f.value.isEmpty

def split (f : TextField) : List Char × List Char :=
  Text.splitAtByte f.cursor f.value.toList

def withSplit (f : TextField) (before after : List Char) : TextField :=
  { f with value := String.ofList (before ++ after), cursor := Text.byteLength before }

/-- The cursor stands between characters. -/
def WellPlaced (f : TextField) : Prop :=
  Text.byteLength f.split.1 = f.cursor

def insert (f : TextField) (c : Char) : TextField :=
  let (before, after) := f.split
  f.withSplit (before ++ [c]) after

def backspace (f : TextField) : TextField :=
  let (before, after) := f.split
  f.withSplit before.dropLast after

def left (f : TextField) : TextField :=
  let before := f.split.1
  { f with cursor := Text.byteLength before.dropLast }

def right (f : TextField) : TextField :=
  let (before, after) := f.split
  { f with cursor := Text.byteLength (before ++ after.take 1) }

def clear (f : TextField) : TextField :=
  { f with value := "", cursor := 0 }

def take (f : TextField) : String × TextField :=
  (f.value, { f with value := "", cursor := 0 })

def set (f : TextField) (value : String) : TextField :=
  { f with value := value, cursor := Text.byteLength value.toList }

/-- The column of the cursor, counted in characters on 16 bits. -/
def column (f : TextField) : Nat :=
  f.split.1.length % 65536

def bullet : Char := '•'

def display (f : TextField) : String :=
  if f.masked then String.ofList (List.replicate f.value.length bullet) else f.value

end TextField

end ChatTerminal
