import ChatTerminal.SignIn
import ChatTerminal.View.Field
/-!
# The sign-in page on the screen

The page while the program loads, and the card with the form to sign in or to create an account.
-/

namespace ChatTerminal.View

open Screen

def loading (screen : Area) (message : String) : Scene :=
  let band := Area.nth (screen.inner.splitRows [.percent 35, .length 5, .atLeast 0]) 1
  { widgets := [
      (screen, .tint (.colored .cyan)),
      (screen, .box (Line.plain " neonchat ") .plain),
      (band, .text [
        Line.styled "◆  N E O N C H A T" (.strong .cyan),
        [],
        Line.styled "Channels, in your terminal" (.colored .gray),
        [],
        Line.styled message (.colored .yellow)] .centered)] }

structure FormWords where
  title : String
  height : Nat
  busy : String
  toggle : String

def wordsOf : SignIn.Mode → FormWords
  | .login => ⟨" Sign in ", 16, "Signing in...", "First time here? Ctrl+R: create account"⟩
  | .register =>
    ⟨" Create account ", 20, "Creating account...",
      "Already have an account? Ctrl+R: back to sign in"⟩

def signInEntries (f : SignIn) : List Entry :=
  let entry (which : SignIn.Field) (label : String) : Entry :=
    ⟨label, f.field which, f.focus == which⟩
  match f.mode with
  | .login => [entry .identifier "Email or name", entry .password "Password"]
  | .register =>
    [entry .fullName "Full name", entry .email "Email", entry .newPassword "Password",
      entry .confirmPassword "Confirm password"]

def signInLines (f : SignIn) : List Line :=
  [Line.styled "◆ IRC SIMPLE" (.strong .cyan), []]
    ++ (signInEntries f).flatMap Entry.lines
    ++ [[]]
    ++ notice f.error .red
    ++ notice f.message .green
    ++ (if f.loading then [Line.styled (wordsOf f.mode).busy (.colored .yellow)] else [])
    ++ [[], Line.styled "Tab: next field │ Enter: submit │ Esc: quit" (.colored .darkGray),
      Line.styled (wordsOf f.mode).toggle (.colored .darkGray)]

def signIn (screen : Area) (f : SignIn) : Scene :=
  let card := screen.centered 60 (wordsOf f.mode).height
  { widgets := [
      (card, .box (Line.plain (wordsOf f.mode).title) (.colored .cyan)),
      (card.inner, .text (signInLines f) .wrapped)]
    cursor := cursorOf card.inner 2 (signInEntries f) }

end ChatTerminal.View
