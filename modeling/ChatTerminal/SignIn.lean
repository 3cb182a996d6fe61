import ChatTerminal.Directory
import ChatTerminal.TextField
/-!
# Signing in and creating an account

Two forms behind one switch: one to sign in, one to create an account. They share the error, the
message and the busy mark below them.
-/

namespace ChatTerminal

/-- The body of a request: the members of a JSON object, all of them strings. -/
abbrev Fields := List (String × String)

namespace SignIn

inductive Mode where
  | login
  | register
deriving Repr, DecidableEq

inductive Field where
  | identifier
  | password
  | fullName
  | email
  | newPassword
  | confirmPassword
deriving Repr, DecidableEq

/-- The field that Tab reaches next; it stays within the form it belongs to. -/
def Field.next : Field → Field
  | .identifier => .password
  | .password => .identifier
  | .fullName => .email
  | .email => .newPassword
  | .newPassword => .confirmPassword
  | .confirmPassword => .fullName

def Field.previous : Field → Field
  | .identifier => .password
  | .password => .identifier
  | .fullName => .confirmPassword
  | .email => .fullName
  | .newPassword => .email
  | .confirmPassword => .newPassword

def Mode.firstField : Mode → Field
  | .login => .identifier
  | .register => .fullName

def Mode.lastField : Mode → Field
  | .login => .password
  | .register => .confirmPassword

def Mode.other : Mode → Mode
  | .login => .register
  | .register => .login

def loginFailed : String := "Login failed. Please check your credentials."

def registerFailed : String := "Registration failed. Please try again."

def welcomeBack : String := "Welcome back. Redirecting to your workspace."

def accountCreated : String := "Account created. Please sign in to continue."

end SignIn

/-- The page on which a user signs in or creates an account. -/
structure SignIn where
  mode : SignIn.Mode := .login
  focus : SignIn.Field := .identifier
  identifier : TextField := {}
  password : TextField := .hidden
  fullName : TextField := {}
  email : TextField := {}
  newPassword : TextField := .hidden
  confirmPassword : TextField := .hidden
  error : String := ""
  message : String := ""
  loading : Bool := false
deriving Repr, DecidableEq

namespace SignIn

def setMode (f : SignIn) (mode : Mode) : SignIn :=
  { f with mode := mode, focus := mode.firstField, error := "", message := "" }

def clearBanners (f : SignIn) : SignIn := { f with error := "", message := "" }

def toggle (f : SignIn) : SignIn := f.setMode f.mode.other

def nextField (f : SignIn) : SignIn := { f with focus := f.focus.next }

def previousField (f : SignIn) : SignIn := { f with focus := f.focus.previous }

def onLastField (f : SignIn) : Bool := f.focus == f.mode.lastField

def field (f : SignIn) : Field → TextField
  | .identifier => f.identifier
  | .password => f.password
  | .fullName => f.fullName
  | .email => f.email
  | .newPassword => f.newPassword
  | .confirmPassword => f.confirmPassword

def setField (f : SignIn) (which : Field) (t : TextField) : SignIn :=
  match which with
  | .identifier => { f with identifier := t }
  | .password => { f with password := t }
  | .fullName => { f with fullName := t }
  | .email => { f with email := t }
  | .newPassword => { f with newPassword := t }
  | .confirmPassword => { f with confirmPassword := t }

def edit (f : SignIn) (change : TextField → TextField) : SignIn :=
  f.setField f.focus (change (f.field f.focus))

/-- The credentials: the identifier counts as an email if it holds an `@`, else as a name. -/
def credentials (identifier password : String) : Fields :=
  [(if identifier.toList.contains '@' then "email" else "name", identifier),
    ("password", password)]

def loginRequest (f : SignIn) : Fields :=
  credentials f.identifier.value f.password.value

/-- The request for an account. The two passwords must agree. -/
def registerRequest (f : SignIn) : Except Refusal Fields :=
  if f.newPassword.value = f.confirmPassword.value then
    .ok [("name", f.fullName.value), ("email", f.email.value), ("password", f.newPassword.value)]
  else .error .passwordsDiffer

/-- Goes back to signing in, with the email of the new account filled in. -/
def registered (f : SignIn) (email : String) : SignIn :=
  let f := f.setMode .login
  { f with
    identifier := f.identifier.set email
    password := f.password.clear
    newPassword := f.newPassword.clear
    confirmPassword := f.confirmPassword.clear
    focus := .password
    message := accountCreated }

def succeeded (f : SignIn) : SignIn :=
  { f with password := f.password.clear, error := "", message := welcomeBack }

end SignIn

end ChatTerminal
