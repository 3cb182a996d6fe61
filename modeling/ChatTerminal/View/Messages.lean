import ChatTerminal.Client
import ChatTerminal.View.Field
/-!
# Messages on the screen

The messages of a channel are one column of lines, and the panel shows a window of it. The window
ends at the newest line unless the user scrolled back.
-/

namespace ChatTerminal.View

open Screen

def borderOf (active : Bool) : Style := .colored (if active then .cyan else .darkGray)

def messageHeader (me : String) (m : Message) : Line :=
  [⟨m.sender, .strong (if m.isFrom me then .cyan else .magenta)⟩,
    ⟨"  " ++ m.clockTime, .colored .darkGray⟩]

/-- The lines of a message: who and when, what, and an empty line. -/
def messageLines (me : String) (m : Message) : List Line :=
  let text := (Text.lines m.content.toList).map fun l =>
    Line.styled ("  " ++ String.ofList l) (.colored .white)
  messageHeader me m :: text ++ [[]]

def conversation (me : String) (ms : List Message) : List Line :=
  ms.flatMap (messageLines me)

/-- The first line of a window of `height` lines that is scrolled back by `scroll` lines, as far as
there are lines above it. -/
def windowStart (total height scroll : Nat) : Nat :=
  let last := total - height
  last - min scroll last

/-- The screen counts skipped lines on 16 bits. -/
def skipLimit : Nat := 65536

def windowLines (lines : List Line) (height scroll : Nat) : List Line :=
  lines.drop (windowStart lines.length height scroll % skipLimit)

def messages (area : Area) (c : Client) : Scene :=
  let inner := area.inner
  let box : Area × Widget :=
    (area, .box (Line.plain (" " ++ c.title ++ " ")) (borderOf (c.panel == .messages)))
  if c.session.messages.isEmpty then
    { widgets := [box, (inner, .tint (.colored .darkGray)),
        (inner, .text (Line.ofText "No messages yet") .centered)] }
  else
    let lines := conversation c.userName c.session.messages
    { widgets := [box, (inner, .text (windowLines lines inner.height c.scroll) .cut)] }

/-- What the input line says while there is no draft. -/
def draftHint (c : Client) : String :=
  if !c.session.isOpen then "Not connected"
  else if c.panel = .input then "Input text…"
  else "Press Tab to type"

def draft (area : Area) (c : Client) : Scene :=
  let active := c.panel == .input
  let text := if c.draft.isEmpty then draftHint c else c.draft.value
  let style : Style := .colored (if c.draft.isEmpty then .darkGray else .white)
  { widgets := [
      (area, .tint style),
      (area, .box (Line.plain " Message ") (borderOf active)),
      (area.inner, .text (Line.ofText text) .cut)]
    cursor :=
      if active && c.prompt.isNone && c.profile.isNone then
        some (area.x + 1 + c.draft.column, area.y + 1)
      else none }

def channelPage (area : Area) (c : Client) : Scene :=
  let parts := area.splitRows [.atLeast 5, .length 3]
  (draft (Area.nth parts 1) c).above (messages (Area.nth parts 0) c)

end ChatTerminal.View
