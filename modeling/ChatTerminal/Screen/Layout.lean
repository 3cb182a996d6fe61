import ChatTerminal.Screen.Canvas
/-!
# Dividing an area

An area is divided into stretches by shares. Least sizes come first, then fixed lengths, then
percentages, each kind in order and as far as there is room; what is left goes to the shares with
a least size. Sizes are counted in hundredths of a cell, and each border between two stretches is
rounded to a whole cell.
-/

namespace ChatTerminal.Screen

inductive Share where
  | length (cells : Nat)
  | percent (p : Nat)
  | atLeast (cells : Nat)
deriving Repr, DecidableEq

namespace Share

/-- Hands out hundredths to the shares for which `wants` names a size, in order: what each gets,
and what is left. -/
def handOut (wants : Share → Option Nat) : Nat → List Share → List Nat × Nat
  | room, [] => ([], room)
  | room, s :: more =>
    let size := min room ((wants s).getD 0)
    let (sizes, left) := handOut wants (room - size) more
    (size :: sizes, left)

def least? : Share → Option Nat
  | .atLeast n => some (n * 100)
  | _ => none

def fixed? : Share → Option Nat
  | .length n => some (n * 100)
  | _ => none

def percentOf? (total : Nat) : Share → Option Nat
  | .percent p => some (p * total)
  | _ => none

/-- The share takes whatever is left. -/
def rest? (room : Nat) : Share → Option Nat
  | .atLeast _ => some room
  | _ => none

/-- The sizes of the shares of `total` cells, in hundredths. -/
def sizes (total : Nat) (shares : List Share) : List Nat :=
  let (least, room) := handOut least? (total * 100) shares
  let (fixed, room) := handOut fixed? room shares
  let (percents, room) := handOut (percentOf? total) room shares
  let (rest, _) := handOut (rest? room) room shares
  let add := List.zipWith (· + ·)
  add (add least fixed) (add percents rest)

/-- The stretches of some sizes, the first of which starts at `start` hundredths. -/
def stretchesFrom : Nat → List Nat → List (Nat × Nat)
  | _, [] => []
  | start, size :: more =>
    ((start + 50) / 100, (start + size + 50) / 100) :: stretchesFrom (start + size) more

def stretches (total : Nat) (shares : List Share) : List (Nat × Nat) :=
  stretchesFrom 0 (sizes total shares)

end Share

namespace Area

def splitRows (a : Area) (shares : List Share) : List Area :=
  (Share.stretches a.height shares).map fun (top, bottom) => a.rows top bottom

def splitColumns (a : Area) (shares : List Share) : List Area :=
  (Share.stretches a.width shares).map fun (left, right) => a.columns left right

def nth (areas : List Area) (i : Nat) : Area := areas[i]?.getD ⟨0, 0, 0, 0⟩

/-- An area of the given height in the middle, as wide as the given percentage. -/
def centered (a : Area) (percent height : Nat) : Area :=
  let band := nth (a.splitRows [.length ((a.height - height) / 2), .length height, .atLeast 0]) 1
  let side := (100 - percent) / 2
  nth (band.splitColumns [.percent side, .percent percent, .percent side]) 1

end Area

end ChatTerminal.Screen
