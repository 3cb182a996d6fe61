import ChatTerminal.View.Home
import ChatTerminal.View.Overlay
import ChatTerminal.View.Sidebar
import ChatTerminal.View.SignIn
/-!
# The client on the screen

What a screen of a given size shows of a client, on each of its pages.
-/

namespace ChatTerminal.View

open Screen

/-- How the link of the channel on display stands. -/
def linkMark : Link.State → String × Color
  | .idle => ("", .darkGray)
  | .connecting => ("● connecting", .yellow)
  | .open => ("● live", .green)
  | .closed => ("● offline", .red)

def headerLine (c : Client) : Line :=
  let (mark, color) := linkMark c.session.state
  let me := c.userName
  [⟨" ◆ NEO_SERVER ", .strong .cyan⟩, ⟨"│ ", .colored .darkGray⟩,
    ⟨c.title, .colored .gray⟩, ⟨"  ", .plain⟩, ⟨mark, .colored color⟩, ⟨"  ", .plain⟩,
    ⟨"[" ++ Identity.initials me ++ "] " ++ me ++ " ", .colored .green⟩]

def header (area : Area) (c : Client) : Scene :=
  { widgets := [
      (area, .box [] (.colored .darkGray)),
      (area.inner, .text [headerLine c] .cut)] }

def statusLine (c : Client) : Line :=
  let entry (key text : String) : Line := [⟨key, .strong .cyan⟩, ⟨text, .colored .darkGray⟩]
  entry " Tab" " Switch │ " ++ entry "c" " Create │ " ++ entry "/" " Search │ "
    ++ entry "p" " Profile │ "
    ++ (if c.panel = .sidebar then entry "d" " Delete │ " else [])
    ++ entry "q" " Quit "

def statusBar (area : Area) (c : Client) : Scene :=
  { widgets := [
      (area, .tint { fg := some .white, bg := some .darkGray }),
      (area, .text [statusLine c] .cut)] }

/-- The part of the chat page between the header and the status bar. -/
def body (area : Area) (c : Client) : Scene :=
  let parts := area.splitColumns [.percent 25, .percent 55, .percent 20]
  let middle := Area.nth parts 1
  (members (Area.nth parts 2) c).above
    ((if c.isHome then home middle c else channelPage middle c).above
      (sidebar (Area.nth parts 0) c))

def chat (screen : Area) (c : Client) : Scene :=
  let parts := screen.splitRows [.length 3, .atLeast 10, .length 1]
  let page :=
    (statusBar (Area.nth parts 2) c).above
      ((body (Area.nth parts 1) c).above (header (Area.nth parts 0) c))
  let page := match c.prompt with
    | some which => (prompt screen c which).above page
    | none => page
  match c.profile with
  | some p => (profile screen p).above page
  | none => page

def scene (c : Client) (width height : Nat) : Scene :=
  let screen : Area := ⟨0, 0, width, height⟩
  match c.page with
  | .loading message => loading screen message
  | .signIn => signIn screen c.signIn
  | .chat => chat screen c

def draw (c : Client) (width height : Nat) : Canvas × Option (Nat × Nat) :=
  let s := scene c width height
  (s.paint width height, s.cursor)

end ChatTerminal.View
