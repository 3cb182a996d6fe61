import ChatTerminal.SignIn
/-!
# The profile overlay

Edits the name, the email and the password of the signed-in user, and deletes the account after a
second confirmation. The overlay remembers the name and the email the server knows; a save that
would change nothing is refused.
-/

namespace ChatTerminal

namespace Profile

inductive Field where
  | name
  | email
  | password
deriving Repr, DecidableEq

def Field.next : Field → Field
  | .name => .email
  | .email => .password
  | .password => .name

def Field.previous : Field → Field
  | .name => .password
  | .email => .name
  | .password => .email

/-- A change of the profile. The password is sent only if there is one. -/
structure Update where
  name : String
  email : String
  password : Option String
deriving Repr, DecidableEq

def Update.fields (u : Update) : Fields :=
  [("name", u.name), ("email", u.email)] ++ u.password.toList.map (("password", ·))

def loadFailed : String := "Failed to load profile."

def updateFailed : String := "Update failed, please try again."

def updated : String := "Profile updated."

def deleteFailed : String := "Failed to delete account."

def confirmationText : String :=
  "Delete your account? This cannot be undone. Press Ctrl+D again to confirm."

end Profile

structure Profile where
  name : TextField := {}
  email : TextField := {}
  password : TextField := .hidden
  focus : Profile.Field := .name
  error : String := ""
  message : String := ""
  loading : Bool := false
  /-- The name the server knows. -/
  savedName : String := ""
  /-- The email the server knows. -/
  savedEmail : String := ""
  /-- The next confirmation deletes the account. -/
  armed : Bool := false
deriving Repr, DecidableEq

namespace Profile

def clearBanners (p : Profile) : Profile := { p with error := "", message := "" }

def nextField (p : Profile) : Profile := { p with focus := p.focus.next }

def previousField (p : Profile) : Profile := { p with focus := p.focus.previous }

def field (p : Profile) : Field → TextField
  | .name => p.name
  | .email => p.email
  | .password => p.password

def setField (p : Profile) (which : Field) (t : TextField) : Profile :=
  match which with
  | .name => { p with name := t }
  | .email => { p with email := t }
  | .password => { p with password := t }

def edit (p : Profile) (change : TextField → TextField) : Profile :=
  p.setField p.focus (change (p.field p.focus))

def fill (p : Profile) (name email : String) : Profile :=
  { p with
    name := p.name.set name
    email := p.email.set email
    savedName := name
    savedEmail := email }

def load (p : Profile) (u : UserRecord) : Profile :=
  p.fill (u.name.getD "") (u.email.getD "")

def update (p : Profile) : Except Refusal Update :=
  let name := Text.trim p.name.value
  let email := Text.trim p.email.value
  let password := Text.trim p.password.value
  if name = p.savedName ∧ email = p.savedEmail ∧ password.isEmpty then .error .nothingChanged
  else .ok ⟨name, email, if password.isEmpty then none else some password⟩

/-- The name and the email after a save: those of the answer, where it names a user, else those
that were sent. -/
def afterSave (sent : Update) (answer : Option UserRecord) : String × String :=
  match answer.filter (·.identity?.isSome) with
  | some u => (u.name.getD sent.name, u.email.getD sent.email)
  | none => (sent.name, sent.email)

def saved (p : Profile) (sent : Update) (answer : Option UserRecord) : Profile :=
  let (name, email) := afterSave sent answer
  let p := p.fill name email
  { p with password := p.password.clear, error := "", message := updated }

/-- Confirms a deletion. The first confirmation only arms the overlay and shows a text. -/
def confirmDelete (p : Profile) : Bool × Profile :=
  if p.armed then (true, { p with armed := false })
  else (false, { p with armed := true, message := "", error := confirmationText })

def cancelDelete (p : Profile) : Profile :=
  if p.armed then { p with armed := false, error := "" } else p

end Profile

end ChatTerminal
