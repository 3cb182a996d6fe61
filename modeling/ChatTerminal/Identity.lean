import ChatTerminal.Json.Tree
import ChatTerminal.Text.Blank
import ChatTerminal.Text.Upper
/-!
# Who is signed in

The identity of the signed-in user, and the record in which the server describes a user. In a
record every field may be missing; a record without a name and without an email names nobody.
-/

namespace ChatTerminal

structure Identity where
  name : String
  email : String
deriving Repr, DecidableEq

namespace Identity

/-- The name shown where a user has none. -/
def anonymous : String := "User"

def developer : Identity := ⟨"Dev_User", "dev@example.com"⟩

def displayName (who : Identity) : String :=
  if who.name.isEmpty then anonymous else who.name

open Json in
def ofTree? (t : Tree) : Option Identity := do
  match ← t.fields? ["name", "email"] with
  | [name, email] => pure ⟨← Tree.required Tree.text? name, ← Tree.required Tree.text? email⟩
  | _ => none

/-- The two letters that stand for a name: the first letters of its first two words, or the first
two letters of its only word, in upper case. A name without words has fixed letters. -/
def initials (name : String) : String :=
  match Text.words name.toList with
  | [] => "DU"
  | [word] => String.ofList (Text.upper (word.take 2))
  | first :: second :: _ => String.ofList (Text.upper (first.take 1 ++ second.take 1))

end Identity

structure UserRecord where
  id : Nat := 0
  name : Option String := none
  email : Option String := none
deriving Repr, DecidableEq

namespace UserRecord

open Json in
def ofTree? (t : Tree) : Option UserRecord := do
  match ← t.fields? ["id", "name", "email"] with
  | [id, name, email] =>
    pure {
      id := ← Tree.withDefault 0 Tree.unsigned? id
      name := ← Tree.withDefault none (Tree.optional Tree.text?) name
      email := ← Tree.withDefault none (Tree.optional Tree.text?) email }
  | _ => none

/-- The user that the record names, if it carries a name or an email that is not empty. -/
def identity? (u : UserRecord) : Option Identity :=
  let name := u.name.getD ""
  let email := u.email.getD ""
  if name.isEmpty && email.isEmpty then none else some ⟨name, email⟩

open Json in
/-- Reads the answer to signing in, to registering and to saving a profile: a user under the key
`user`, or none. -/
def ofAnswer? (t : Tree) : Option (Option UserRecord) := do
  match ← t.fields? ["user"] with
  | [user] => Tree.withDefault none (Tree.optional ofTree?) user
  | _ => none

end UserRecord

end ChatTerminal
