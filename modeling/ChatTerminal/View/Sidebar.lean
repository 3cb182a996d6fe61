import ChatTerminal.View.Messages
/-!
# The sidebar and the members on the screen

The sidebar shows the landing page and the channels, as a window of rows that holds the cursor,
and a banner below them.
-/

namespace ChatTerminal.View

open Screen

structure SidebarRow where
  label : String
  /-- The row is that of the channel on display. -/
  current : Bool
  owned : Bool
deriving Repr, DecidableEq

def sidebarRows (c : Client) : List SidebarRow :=
  ⟨"Home", c.activeId == some homeId || c.activeId.isNone, false⟩
    :: c.directory.channels.map fun k =>
      ⟨k.label c.userName, c.activeId == some k.id, k.isOwnedBy c.userName⟩

/-- The first row of a window of `height` rows that holds the cursor. -/
def sidebarStart (cursor height : Nat) : Nat :=
  if 0 < height && height ≤ cursor then cursor - height + 1 else 0

def sidebarWindow (c : Client) (height : Nat) : List (SidebarRow × Nat) :=
  ((sidebarRows c).zipIdx.drop (sidebarStart c.cursor height)).take (max height 1)

def sidebarLine (c : Client) (row : SidebarRow) (number : Nat) : Line :=
  let marked := number == c.cursor && c.panel == .sidebar
  let style : Style := if row.current then .strong .cyan else .colored .white
  [⟨if marked then "▸ " else "  ", style⟩, ⟨row.label, style⟩]
    ++ (if row.owned then [⟨"  ×", .colored .darkGray⟩] else [])

def sidebarLines (c : Client) (height : Nat) : List Line :=
  (sidebarWindow c height).map (fun (row, number) => sidebarLine c row number)
    ++ (if c.directory.isEmpty then [Line.styled "  No channels yet" (.colored .darkGray)] else [])

/-- The banner below the sidebar, an error before a message. -/
def sidebarBanner (c : Client) : Option (String × Color) :=
  if !c.sidebarError.isEmpty then some (c.sidebarError, .red)
  else if !c.sidebarMessage.isEmpty then some (c.sidebarMessage, .green)
  else none

def banner (area : Area) (text : String) (color : Color) : Scene :=
  { widgets := [
      (area, .tint (.colored color)),
      (area, .box [] (.colored color)),
      (area.inner, .text (Line.ofText text) .trimmed)] }

def sidebar (area : Area) (c : Client) : Scene :=
  let height := if (sidebarBanner c).isSome then 3 else 0
  let parts := area.splitRows [.atLeast 3, .length height]
  let list := Area.nth parts 0
  let rows : Scene :=
    { widgets := [
        (list, .box (Line.plain " Channels ") (borderOf (c.panel == .sidebar))),
        (list.inner, .rows (sidebarLines c list.inner.height))] }
  match sidebarBanner c with
  | some (text, color) => (banner (Area.nth parts 1) text color).above rows
  | none => rows

def memberLines (ms : List Member) : List Line :=
  if ms.isEmpty then [Line.styled "Not loaded" (.colored .darkGray)]
  else ms.map fun m => [⟨"● ", .colored .cyan⟩, ⟨m.name, .colored .cyan⟩]

def members (area : Area) (c : Client) : Scene :=
  { widgets := [
      (area, .box (Line.plain " Members ") (.colored .darkGray)),
      (area.inner, .rows (memberLines c.session.members))] }

end ChatTerminal.View
