import ChatTerminal.Text.Blank
/-!
# Addresses of links

What a link needs of its address before it can be opened: a scheme, a host and characters that a
request may hold. Nothing is normalised here; the target is sent as it is written.
-/

namespace ChatTerminal.Link

structure Address where
  scheme : List Char
  authority : List Char
  /-- The path and the query. -/
  target : List Char
deriving Repr, DecidableEq

namespace Address

def isSchemeChar (c : Char) : Bool := c.isAlphanum || ['+', '-', '.'].contains c

def longestScheme : Nat := 64

def isAuthorityChar (c : Char) : Bool :=
  c.isAlphanum || "!$&'()*+,-.:;=@[]_~%".toList.contains c

/-- The part of an authority behind its last sign of the same kind. -/
def afterLast (mark : Char) (s : List Char) : List Char :=
  (s.reverse.takeWhile (· != mark)).reverse

def hostPort (authority : List Char) : List Char := afterLast '@' authority

/-- Brackets stand at most once and in order; behind them and outside them is at most one colon and
no percent sign. -/
def isAuthority (s : List Char) : Bool :=
  let host := hostPort s
  let behind := afterLast ']' host
  s.all isAuthorityChar && !host.isEmpty &&
    s.count '[' ≤ 1 && s.count ']' == s.count '[' &&
    (s.takeWhile (· != ']')).contains '[' == s.contains '[' &&
    behind.count ':' ≤ 1 && !behind.contains '%'

def isPathChar (c : Char) : Bool :=
  0x21 ≤ c.toNat && !"#<>?`".toList.contains c

def isQueryChar (c : Char) : Bool :=
  0x21 ≤ c.toNat && !"\"#<>".toList.contains c

def splitTarget (s : List Char) : List Char × List Char :=
  let s := s.takeWhile (· != '#')
  (s.takeWhile (· != '?'), s.dropWhile (· != '?'))

def parse? (text : String) : Option Address := do
  let s := text.toList
  let scheme := s.takeWhile (· != ':')
  let rest ← Text.dropLead? "://".toList (s.dropWhile (· != ':'))
  let ends (c : Char) : Bool := c == '/' || c == '?' || c == '#'
  let authority := rest.takeWhile (!ends ·)
  let (path, query) := splitTarget (rest.dropWhile (!ends ·))
  if scheme.isEmpty || !scheme.all isSchemeChar || longestScheme < scheme.length then none
  else if !isAuthority authority then none
  else if path.all isPathChar && query.all isQueryChar then
    some ⟨scheme, authority, (if path.isEmpty then ['/'] else path) ++ query⟩
  else none

def isLink (a : Address) : Bool :=
  let scheme := Text.asciiLower a.scheme
  scheme == "ws".toList || scheme == "wss".toList

end Address

end ChatTerminal.Link
