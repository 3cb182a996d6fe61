import ChatTerminal.Client
import ChatTerminal.View.Field
/-!
# Prompts and the profile on the screen

Both are cards over the chat page.
-/

namespace ChatTerminal.View

open Screen

structure PromptWords where
  title : String
  label : String
  hint : String

def promptWords : Prompt → PromptWords
  | .newChannel => ⟨" New Channel ", "Name:", "Channel name"⟩
  | .search => ⟨" Join Channel ", "Search:", "owner@channel"⟩

def promptField (c : Client) : Prompt → TextField
  | .newChannel => c.newChannelName
  | .search => c.searchQuery

def prompt (screen : Area) (c : Client) (which : Prompt) : Scene :=
  let card := screen.centered 60 7
  let words := promptWords which
  let field := promptField c which
  let text : Span :=
    if field.isEmpty then ⟨words.hint, .colored .darkGray⟩
    else ⟨field.display, .colored .white⟩
  { widgets := [
      (card, .clear),
      (card, .box (Line.plain words.title) (.colored .cyan)),
      (card.inner, .text [
        Line.styled words.label (.colored .gray),
        [⟨"> ", .colored .cyan⟩, text],
        [],
        Line.styled "Enter: confirm  │  Esc: cancel" (.colored .darkGray)] .cut)]
    cursor := some (card.inner.x + 2 + field.column, card.inner.y + 1) }

def profileEntries (p : Profile) : List Entry :=
  let entry (which : Profile.Field) (label : String) : Entry :=
    ⟨label, p.field which, p.focus == which⟩
  [entry .name "Name", entry .email "Email",
    entry .password "New password (leave empty to keep)"]

def profileLines (p : Profile) : List Line :=
  (profileEntries p).flatMap Entry.lines
    ++ [[]]
    ++ (if p.loading then [Line.styled "Saving..." (.colored .yellow)] else [])
    ++ notice p.error .red
    ++ notice p.message .green
    ++ [[], Line.styled "Enter: save │ Ctrl+L: log out │ Ctrl+D: delete account │ Esc: close"
      (.colored .darkGray)]

def profile (screen : Area) (p : Profile) : Scene :=
  let card := screen.centered 60 17
  { widgets := [
      (card, .clear),
      (card, .box (Line.plain " Profile ") (.colored .cyan)),
      (card.inner, .text (profileLines p) .wrapped)]
    cursor := cursorOf card.inner 0 (profileEntries p) }

end ChatTerminal.View
