import ChatTerminal.Web.Date
import ChatTerminal.Web.Url
/-!
# Cookies

Reading the text in which a server sets a cookie, and the jar that keeps cookies. The jar holds
one cookie for each domain, path and name. A cookie without a domain belongs to the host that set
it; one with a domain is shared by the hosts below that domain. A cookie without a path belongs to
the directory of the address that set it.
-/

namespace ChatTerminal.Web

open Text

structure SetCookie where
  name : List Char
  value : List Char
  domain : Option (List Char) := none
  path : Option (List Char) := none
  secure : Bool := false
  httpOnly : Bool := false
  /-- The seconds a cookie lives. -/
  maxAge : Option Nat := none
  /-- The second at which a cookie ends. -/
  expires : Option Int := none
deriving Repr, DecidableEq

namespace SetCookie

/-- The longest life that can be written. -/
def longestAge : Nat := 9223372036854775807

/-- The seconds that a `Max-Age` gives; nothing if it is no number. A negative number counts as
zero, one that is too large as the longest life. -/
def age? (s : List Char) : Option Nat :=
  let (negative, digits) :=
    match s with
    | '-' :: rest => (true, rest)
    | s => (false, s)
  if !digits.all Char.isDigit then none
  else if negative then some 0
  else if digits.isEmpty then some longestAge
  else some (min longestAge (Host.ofDigits 10 (digits.filterMap hexDigit?)))

/-- Adds an attribute. An unknown attribute, and a value that cannot be read, change nothing. -/
def withAttribute (c : SetCookie) (text : List Char) : SetCookie :=
  let (key, value) :=
    match splitAtFirst '=' text with
    | some (key, value) => (stripBoth isBlank key, some (stripBoth isBlank value))
    | none => (stripBoth isBlank text, none)
  match String.ofList (asciiLower key), value with
  | "secure", _ => { c with secure := true }
  | "httponly", _ => { c with httpOnly := true }
  | "max-age", some v =>
    match age? v with
    | some n => { c with maxAge := some n }
    | none => c
  | "domain", some v => if v.isEmpty then c else { c with domain := some v }
  | "path", some v => { c with path := some v }
  | "expires", some v =>
    match Date.parse v with
    | some t => { c with expires := some t }
    | none => c
  | _, _ => c

/-- Reads a cookie: a name and a value around the first equals sign, then attributes after
semicolons. The name must not be empty. -/
def parse (s : String) : Option SetCookie :=
  match pieces (· == ';') s.toList with
  | [] => none
  | pair :: attributes =>
    match splitAtFirst '=' pair with
    | none => none
    | some (name, value) =>
      let name := stripBoth isBlank name
      if name.isEmpty then none
      else some (attributes.foldl withAttribute { name := name, value := stripBoth isBlank value })

end SetCookie

structure Cookie where
  name : List Char
  value : List Char
  domain : List Char
  /-- The cookie belongs to the host `domain` alone, not to the hosts below it. -/
  hostOnly : Bool
  path : List Char
  secure : Bool
  httpOnly : Bool
  /-- The second at which the cookie ends. -/
  expires : Option Int
deriving Repr, DecidableEq

/-- The scheme is one of the two that carry cookies marked for them alone. -/
def Url.isHttp (u : Url) : Bool := "http".toList.isPrefixOf u.scheme

/-- What is sent to the address is kept from others. -/
def Url.isTrusted (u : Url) : Bool :=
  u.scheme == "https".toList || (u.host.map Host.isLoopback) == some true

/-- The path of a cookie that an address sets without one: its directory. -/
def Url.directory (u : Url) : List Char :=
  let path := u.pathText
  let upToSlash := (path.reverse.dropWhile (· ≠ '/')).reverse.dropLast
  if path.head? = some '/' && !upToSlash.isEmpty then upToSlash else ['/']

/-- The host is the domain or lies below it. Addresses have no hosts below them. -/
def domainCovers (domain : List Char) (host : Host) : Bool :=
  let name := host.text
  domain == name ||
    (match host with
      | .ipv4 _ => false
      | _ => ('.' :: domain).isSuffixOf name)

/-- The path is that of the cookie or lies below it. -/
def pathCovers (cookiePath path : List Char) : Bool :=
  cookiePath == path ||
    (cookiePath.isPrefixOf path &&
      (cookiePath.getLast? == some '/' || path[cookiePath.length]? == some '/'))

namespace Cookie

def isExpired (c : Cookie) (now : Int) : Bool :=
  match c.expires with
  | some t => t ≤ now
  | none => false

/-- The cookie is sent to the address. -/
def isFor (c : Cookie) (u : Url) : Bool :=
  (match u.host, u.path with
    | some host, .segments _ =>
      (if c.hostOnly then c.domain == host.text else domainCovers c.domain host) &&
        pathCovers c.path u.pathText
    | _, _ => false) &&
    (!c.secure || u.isTrusted) && (!c.httpOnly || u.isHttp)

/-- Two cookies of one domain, path and name replace each other. -/
def sameKey (a b : Cookie) : Bool :=
  a.domain == b.domain && a.path == b.path && a.name == b.name

end Cookie

/-- The domain of a cookie that a host sets for itself. An address that embeds one of four bytes
has two spellings and keeps no cookies. -/
def Host.ownDomain? : Host → Option (List Char)
  | .ipv6 [0, 0, 0, 0, 0, 0xFFFF, _, _] => none
  | host => some host.text

namespace SetCookie

/-- The domain a cookie belongs to when the host sets it, and whether it belongs to that host
alone; nothing if the host may not set it. -/
def scope? (c : SetCookie) (host : Host) : Option (List Char × Bool) := do
  let own : Option (List Char × Bool) := host.ownDomain?.map (·, true)
  match c.domain with
  | none => own
  | some written =>
    let written := (dropLead? ['.'] written).getD written
    let domain ← domainAscii? (fun _ => false) written
    if domain.isEmpty then own
    else if domainCovers domain host then some (domain, false)
    else none

/-- The second at which a cookie set at the second `now` ends. A life in seconds counts before a
date. -/
def ending? (c : SetCookie) (now : Int) : Option Int :=
  match c.maxAge with
  | some 0 => some 0
  | some n => some (now + n)
  | none => c.expires

/-- The cookie as the jar keeps it; nothing if the address may not set it. -/
def received? (c : SetCookie) (now : Int) (u : Url) : Option Cookie := do
  let host ← u.host
  let (domain, hostOnly) ← c.scope? host
  if c.httpOnly && !u.isHttp then none
  else
    let path :=
      match c.path with
      | some ('/' :: rest) => '/' :: rest
      | _ => u.directory
    some ⟨c.name, c.value, domain, hostOnly, path, c.secure, c.httpOnly, c.ending? now⟩

end SetCookie

/-- The cookies that are kept, in the order in which their keys first came. -/
structure CookieJar where
  cookies : List Cookie := []
deriving Repr, DecidableEq

namespace CookieJar

def put : List Cookie → Cookie → List Cookie
  | [], c => [c]
  | held :: more, c => if held.sameKey c then c :: more else held :: put more c

/-- Keeps a cookie that the address sets at the second `now`. An expired cookie removes the one
it would replace. -/
def receive (jar : CookieJar) (now : Int) (u : Url) (text : String) : CookieJar :=
  match (SetCookie.parse text).bind (·.received? now u) with
  | none => jar
  | some c =>
    let guarded := jar.cookies.any fun held => held.sameKey c && held.httpOnly && !u.isHttp
    if guarded then jar
    else if c.isExpired now then ⟨jar.cookies.filter (! ·.sameKey c)⟩
    else ⟨put jar.cookies c⟩

/-- The cookies for an address at the second `now`, those of longer paths first. -/
def cookiesFor (jar : CookieJar) (now : Int) (u : Url) : List Cookie :=
  (jar.cookies.filter fun c => c.isFor u && !c.isExpired now).mergeSort
    fun a b => b.path.length ≤ a.path.length

/-- The header that carries the cookies for an address: none if there are none or if one holds a
control character. -/
def header? (jar : CookieJar) (now : Int) (u : Url) : Option String :=
  let pairs := (jar.cookiesFor now u).map fun c => c.name ++ '=' :: c.value
  let text := (pairs.intersperse "; ".toList).flatten
  if text.isEmpty || text.any fun c => (c.toNat < 0x20 && c != '\t') || c.toNat == 0x7F then none
  else some (String.ofList text)

end CookieJar

end ChatTerminal.Web
