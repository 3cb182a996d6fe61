import ChatTerminal.View.Messages
/-!
# The landing page on the screen
-/

namespace ChatTerminal.View

open Screen

def shortcut (key text : String) : Line := [⟨key, .strong .cyan⟩, ⟨text, .colored .white⟩]

def channelBlock (heading : String) (channels : List Channel) (name : Channel → String)
    (absent : String) : List Line :=
  Line.styled heading (.strong .cyan)
    :: (if channels.isEmpty then [Line.styled absent (.colored .darkGray)]
      else (channels.take 5).map fun k => Line.plain ("  " ++ name k))

def homeLines (c : Client) : List Line :=
  let me := c.userName
  [Line.styled ("Welcome back, " ++ me) (.strong .cyan),
    Line.styled "Create or search for a channel to start chatting." (.colored .gray), []]
    ++ (c.directory.recent 1).map (fun k => shortcut "e" ("  Enter most recent: " ++ k.label me))
    ++ [shortcut "c" "  Create a channel", shortcut "/" "  Join with owner@channel", []]
    ++ channelBlock "Your channels" (c.directory.owned me) (fun k => "#" ++ k.name)
      "  No channels yet"
    ++ [[]]
    ++ channelBlock "Recently joined" (c.directory.joined me) (·.label me)
      "  No joined channels yet"

def home (area : Area) (c : Client) : Scene :=
  { widgets := [
      (area, .box (Line.plain " Home ") (borderOf (c.panel != .sidebar))),
      (area.inner, .text (homeLines c) .wrapped)] }

end ChatTerminal.View
