import ChatTerminal.Profile
import ChatTerminal.Web.Cookie
/-!
# The server's interface

The requests the client makes, the answers it gets, and the agent that knows the address of the
server and keeps its cookies.
-/

namespace ChatTerminal

/-- The address of a path below a base; an empty base leaves the path alone. -/
def addressOf (base path : String) : String :=
  if base.isEmpty then path
  else
    let base :=
      match base.toList.getLast? with
      | some '/' => String.ofList base.toList.dropLast
      | _ => base
    base ++ path

/-- The address of a link: `http` at the front becomes `ws`. -/
def linkAddressOf (base path : String) : String :=
  let address := addressOf base path
  match Text.dropLead? "http".toList address.toList with
  | some rest => "ws" ++ String.ofList rest
  | none => address

inductive Method where
  | get
  | post
  | put
  | delete
deriving Repr, DecidableEq

def Method.name : Method → String
  | .get => "GET"
  | .post => "POST"
  | .put => "PUT"
  | .delete => "DELETE"

inductive Call where
  | me
  | updateMe (update : Profile.Update)
  | deleteMe
  | login (credentials : Fields)
  | register (account : Fields)
  | logout
  | ownedChannels
  | joinedChannels
  | createChannel (name : String)
  | deleteChannel (id : Nat)
  | searchChannel (query : String)
  | joinChannel (id : Nat)
  | members (channel : Nat)
deriving Repr, DecidableEq

namespace Call

def method : Call → Method
  | .me | .ownedChannels | .joinedChannels | .searchChannel _ | .members _ => .get
  | .login _ | .register _ | .logout | .createChannel _ | .joinChannel _ => .post
  | .updateMe _ => .put
  | .deleteMe | .deleteChannel _ => .delete

def path : Call → String
  | .me | .updateMe _ | .deleteMe => "/api/me"
  | .login _ => "/api/login"
  | .register _ => "/api/register"
  | .logout => "/api/logout"
  | .ownedChannels | .createChannel _ => "/api/channels"
  | .joinedChannels => "/api/channels/joined"
  | .deleteChannel id => "/api/channels/" ++ toString id
  | .searchChannel query =>
    "/api/channels/search?query=" ++ String.ofList (Web.Form.encode query.toList)
  | .joinChannel id => "/api/channels/" ++ toString id ++ "/join"
  | .members id => "/api/channels/" ++ toString id ++ "/members"

def body : Call → Option Fields
  | .updateMe update => some update.fields
  | .login fields | .register fields => some fields
  | .logout | .joinChannel _ => some []
  | .createChannel name => some [("name", name)]
  | _ => none

end Call

structure Request where
  method : Method
  /-- The path and the query. -/
  target : String
  cookie : Option String
  body : Option Fields
deriving Repr, DecidableEq

/-- How a request ends: without an answer, or with one that may set cookies. -/
inductive Reply where
  | dropped
  | answered (status : Nat) (body : String) (cookies : List String)
deriving Repr, DecidableEq

/-- A server: what it answers to a request after the requests before it. -/
abbrev Server := List Request → Request → Reply

/-- The message in the body of an error answer: the string under `error`, else the string under
`message`, in an object. -/
def serverMessage? (body : String) : Option String := do
  let document ← Json.Tree.ofDocument? body.toList
  match (document.lastMember? "error".toList).bind Json.Tree.text? with
  | some text => some text
  | none => (document.lastMember? "message".toList).bind Json.Tree.text?

inductive Failure where
  | badBase (e : Web.UrlError)
  | unreachable
  | refused (status : Nat) (message : Option String)
  | undecodable
deriving Repr, DecidableEq

namespace Failure

def message : Failure → String
  | .badBase e => "invalid API base URL: " ++ e.message
  | .unreachable => "request failed"
  | .refused status message =>
    "server error (" ++ toString status ++ "): " ++ message.getD "no details"
  | .undecodable => "invalid server response"

/-- The text for the user: the server's own message where it sent one. -/
def userText (f : Failure) (fallback : String) : String :=
  match f with
  | .refused _ (some message) => message
  | _ => fallback

end Failure

/-- An answer of these statuses carries no body. -/
def isBodiless (status : Nat) : Bool := status == 204 || status == 304

def Reply.content? : Reply → Except Failure String
  | .dropped => .error .unreachable
  | .answered status body _ =>
    let body := if isBodiless status then "" else body
    if 200 ≤ status && status < 300 then .ok body
    else .error (.refused status (serverMessage? body))

def Reply.value? (r : Reply) (read : Json.Tree → Option α) : Except Failure α := do
  let body ← r.content?
  match (Json.Tree.ofText? body.toList).bind read with
  | some a => .ok a
  | none => .error .undecodable

structure LinkRequest where
  address : String
  cookie : Option String
  origin : Option String
deriving Repr, DecidableEq

def LinkRequest.below (base : String) (cookie origin : Option String) (channel : Nat) :
    LinkRequest :=
  ⟨linkAddressOf base ("/ws/" ++ toString channel), cookie, origin⟩

structure Agent where
  base : String
  url : Web.Url
  jar : Web.CookieJar := {}
deriving Repr, DecidableEq

namespace Agent

def sessionCookie : String := "auth_token"

def ofBase (base : String) : Except Failure Agent :=
  match Web.Url.parse base with
  | .ok u => .ok { base := base, url := u }
  | .error e => .error (.badBase e)

/-- Puts a session kept from an earlier run into the jar. -/
def seed (a : Agent) (now : Int) (token : String) : Agent :=
  { a with jar := a.jar.receive now a.url (sessionCookie ++ "=" ++ token ++ "; Path=/") }

def forget (a : Agent) (now : Int) : Agent :=
  { a with jar := a.jar.receive now a.url (sessionCookie ++ "=; Max-Age=0; Path=/") }

/-- The cookie header for the base address, if all of it is ASCII. -/
def cookieHeader? (a : Agent) (now : Int) : Option String :=
  (a.jar.header? now a.url).filter (·.toList.all Web.isAscii)

/-- The value of the first session cookie in a cookie header, if it is not empty. -/
def tokenIn? (header : String) : Option String :=
  let pairs := (Text.pieces (· == ';') header.toList).filterMap fun part =>
    Text.splitAtFirst '=' (Text.stripBoth Text.isBlank part)
  match pairs.find? fun (name, _) => name == sessionCookie.toList with
  | some (_, value) => if value.isEmpty then none else some (String.ofList value)
  | none => none

def token? (a : Agent) (now : Int) : Option String :=
  (a.cookieHeader? now).bind tokenIn?

/-- The address that a call goes to, if it is one that requests can be sent to. -/
def urlOf? (a : Agent) (c : Call) : Option Web.Url :=
  match Web.Url.parse (addressOf a.base c.path) with
  | .ok u => if u.scheme == "http".toList || u.scheme == "https".toList then some u else none
  | .error _ => none

def requestTo (a : Agent) (now : Int) (c : Call) (u : Web.Url) : Request :=
  { method := c.method
    target := String.ofList u.target
    cookie := a.jar.header? now u
    body := c.body }

/-- Keeps the cookies of an answer that came from an address. -/
def receive (a : Agent) (now : Int) (u : Web.Url) : Reply → Agent
  | .dropped => a
  | .answered _ _ cookies =>
    { a with jar := cookies.foldl (fun jar text => jar.receive now u text) a.jar }

def linkRequest (a : Agent) (now : Int) (origin : Option String) (channel : Nat) : LinkRequest :=
  .below a.base (a.cookieHeader? now) origin channel

end Agent

end ChatTerminal
