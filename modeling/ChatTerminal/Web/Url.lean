import ChatTerminal.Web.Host
/-!
# Addresses of resources

Reading an absolute address into its parts, as the living standard for URLs does it, and the
origin of an address. Some schemes are special: they have a host and a default port, and a
backslash separates like a slash.
-/

namespace ChatTerminal.Web

open Text

/-- The path of an address: opaque text, or segments that follow a slash each. -/
inductive UrlPath where
  | opaqueText (s : List Char)
  | segments (segments : List (List Char))
deriving Repr, DecidableEq

structure Url where
  scheme : List Char
  username : List Char := []
  password : List Char := []
  host : Option Host := none
  /-- The port, where it is not the scheme's own. -/
  port : Option Nat := none
  path : UrlPath := .segments []
  query : Option (List Char) := none
  fragment : Option (List Char) := none
deriving Repr, DecidableEq

namespace Url

inductive SchemeKind where
  | file
  | special
  | other
deriving DecidableEq

def defaultPort? (scheme : List Char) : Option Nat :=
  [("http", 80), ("https", 443), ("ws", 80), ("wss", 443), ("ftp", 21)].lookup
    (String.ofList scheme)

def kindOf (scheme : List Char) : SchemeKind :=
  if scheme = "file".toList then .file
  else if (defaultPort? scheme).isSome then .special
  else .other

/-- The text without surrounding control characters and spaces, and without tabs and line ends
anywhere. -/
def cleaned (s : List Char) : List Char :=
  (stripBoth (·.toNat ≤ 0x20) s).filter fun c => c != '\t' && c != '\n' && c != '\r'

def isSchemeChar (c : Char) : Bool :=
  c.isAlphanum || c == '+' || c == '-' || c == '.'

/-- The scheme in lower case and what follows its colon. -/
def splitScheme? (s : List Char) : Option (List Char × List Char) :=
  match s.dropWhile isSchemeChar with
  | ':' :: rest =>
    if (s.head?.map Char.isAlpha) = some true then
      some (asciiLower (s.takeWhile isSchemeChar), rest)
    else none
  | _ => none

/-- A slash, or a backslash where that separates too. -/
def isSlash (backslash : Bool) (c : Char) : Bool :=
  c == '/' || (backslash && c == '\\')

/-- The end of the authority: a slash, a question mark or a number sign. -/
def endsAuthority (backslash : Bool) (c : Char) : Bool :=
  isSlash backslash c || c == '?' || c == '#'

/-- The characters that a path writes with percent signs, controls included. -/
def reservedInPath (c : Char) : Bool :=
  isControl c || " \"#<>?^`\x7b\x7d".toList.contains c

def reservedInQuery (special : Bool) (c : Char) : Bool :=
  isControl c || " \"#<>".toList.contains c || (special && c == '\'')

def reservedInFragment (c : Char) : Bool :=
  isControl c || " \"<>`".toList.contains c

def reservedInUserinfo (c : Char) : Bool :=
  isControl c || " \"#<>?`\x7b\x7d/:;=@[\\]^|".toList.contains c

/-- The segment, with percent signs read for dots, is one dot or two. -/
def undotted (s : List Char) : List Char :=
  match s with
  | '%' :: '2' :: e :: rest => if e = 'e' || e = 'E' then '.' :: undotted rest else s
  | '.' :: rest => '.' :: undotted rest
  | s => s

def isSingleDot (s : List Char) : Bool := undotted s == ['.']

def isDoubleDot (s : List Char) : Bool := undotted s == ['.', '.']

/-- A letter and a colon or a bar. -/
def isDrive : List Char → Bool
  | [a, b] => a.isAlpha && (b == ':' || b == '|')
  | _ => false

def isPlainDrive : List Char → Bool
  | [a, b] => a.isAlpha && b == ':'
  | _ => false

/-- The segments without the last one; the drive of a file stays. -/
def shortened (file : Bool) (path : List (List Char)) : List (List Char) :=
  match path with
  | [drive] => if file && isPlainDrive drive then path else []
  | path => path.dropLast

/-- Takes a segment into a path. A single dot adds nothing and a double dot removes a segment,
but a path that ends in either ends in an empty segment. -/
def pushSegment (file : Bool) (path : List (List Char)) (segment : List Char) (last : Bool) :
    List (List Char) :=
  if isDoubleDot segment then
    let path := shortened file path
    if last then path ++ [[]] else path
  else if isSingleDot segment then
    if last then path ++ [[]] else path
  else
    let segment :=
      match segment with
      | [a, _] => if file && path.isEmpty && isDrive segment then [a, ':'] else segment
      | segment => segment
    path ++ [segment]

def pathOf (file : Bool) (segments : List (List Char)) : List (List Char) :=
  let firsts := segments.dropLast.foldl (fun path s => pushSegment file path s false) []
  match segments.getLast? with
  | none => firsts
  | some last => pushSegment file firsts last true

/-- The segments of a path text: one after each slash, and one before the first slash if the text
does not start with one. -/
def segmentsOf (backslash : Bool) (s : List Char) : List (List Char) :=
  let s :=
    match s with
    | c :: rest => if isSlash backslash c then rest else s
    | [] => s
  (pieces (isSlash backslash) s).map (percentEncode reservedInPath)

def queryAndFragment (special : Bool) (s : List Char) :
    Option (List Char) × Option (List Char) :=
  let ahead := s.takeWhile (· ≠ '#')
  let fragment :=
    match s.dropWhile (· ≠ '#') with
    | _ :: rest => some (percentEncode reservedInFragment rest)
    | [] => none
  let query :=
    match ahead with
    | '?' :: rest => some (percentEncode (reservedInQuery special) rest)
    | _ => none
  (query, fragment)

def beforeQuery (s : List Char) : List Char := s.takeWhile fun c => c != '?' && c != '#'

def fromQuery (s : List Char) : List Char := s.dropWhile fun c => c != '?' && c != '#'

/-- A port up to the end of the authority. No digits mean the default port. -/
def parsePort (scheme digits : List Char) : Except UrlError (Option Nat) :=
  if digits.all Char.isDigit then
    let n := Host.ofDigits 10 (digits.filterMap hexDigit?)
    if 65535 < n then .error .badPort
    else if digits.isEmpty || defaultPort? scheme = some n then .ok none
    else .ok (some n)
  else .error .badPort

def splitUserinfo (s : List Char) : List Char × List Char :=
  match splitAtFirst ':' s with
  | some (name, password) => (name, password)
  | none => (s, [])

/-- The host and what follows it: a host ends at the first colon outside brackets. -/
def splitHost (bracketed : Bool) : List Char → List Char × List Char
  | [] => ([], [])
  | c :: s =>
    if c = ':' && !bracketed then ([], c :: s)
    else
      let bracketed := if c = '[' then true else if c = ']' then false else bracketed
      let (host, rest) := splitHost bracketed s
      (c :: host, rest)

def parseAuthority (u : Url) (special : Bool) (authority : List Char) : Except UrlError Url := do
  let reversedHost := authority.reverse.takeWhile (· ≠ '@')
  let hostAndPort := reversedHost.reverse
  let userinfo := (authority.take (authority.length - hostAndPort.length)).dropLast
  let credentials := decide (hostAndPort.length < authority.length)
  let (name, password) := splitUserinfo userinfo
  let (hostText, rest) := splitHost false hostAndPort
  if hostText.isEmpty && (special || !rest.isEmpty || credentials) then throw .emptyHost
  let host ← if special then Host.parse hostText else Host.parseOpaque hostText
  let port ←
    match rest with
    | [] => pure none
    | _ :: digits => parsePort u.scheme digits
  pure { u with
    username := percentEncode reservedInUserinfo name
    password := percentEncode reservedInUserinfo password
    host := if hostText.isEmpty then none else some host
    port := port }

def withRest (u : Url) (special : Bool) (rest : List Char) : Url :=
  let text := beforeQuery rest
  let (query, fragment) := queryAndFragment special (fromQuery rest)
  let path := if text.isEmpty && !special then [] else pathOf false (segmentsOf special text)
  { u with path := .segments path, query := query, fragment := fragment }

def afterSlashes (scheme : List Char) (special : Bool) (s : List Char) : Except UrlError Url := do
  let authority := s.takeWhile (! endsAuthority special ·)
  let u ← parseAuthority { scheme := scheme } special authority
  pure (u.withRest special (s.dropWhile (! endsAuthority special ·)))

def parseOther (scheme s : List Char) : Except UrlError Url :=
  match s with
  | '/' :: '/' :: rest => afterSlashes scheme false rest
  | '/' :: _ => .ok (({ scheme := scheme } : Url).withRest false s)
  | s =>
    let (query, fragment) := queryAndFragment false (fromQuery s)
    .ok {
      scheme := scheme
      path := .opaqueText (percentEncode isControl (beforeQuery s))
      query := query
      fragment := fragment }

/-- The path of a file: a drive letter leads it, and no empty segments do. -/
def filePath (s : List Char) : List (List Char) :=
  let path := pathOf true (segmentsOf true s)
  let rest := path.dropWhile List.isEmpty
  if rest.isEmpty then [[]] else rest

/-- Reads the address of a file. Its host may be missing, and `localhost` counts as missing. -/
def parseFile (s : List Char) : Except UrlError Url :=
  let finish (host : Option Host) (rest : List Char) : Url :=
    let (query, fragment) := queryAndFragment true (fromQuery rest)
    let path := filePath (beforeQuery rest)
    let host := if (path.head?.map isPlainDrive) = some true then none else host
    { scheme := "file".toList, host := host, path := .segments path
      query := query, fragment := fragment }
  match s with
  | a :: b :: rest =>
    if isSlash true a && isSlash true b then
      let hostText := rest.takeWhile (! endsAuthority true ·)
      let after := rest.dropWhile (! endsAuthority true ·)
      if isDrive hostText then .ok (finish none rest)
      else if hostText.isEmpty then .ok (finish none after)
      else do
        let host ← Host.parse hostText
        .ok (finish (if host = .domain "localhost".toList then none else some host) after)
    else .ok (finish none s)
  | s => .ok (finish none s)

def parse (text : String) : Except UrlError Url :=
  match splitScheme? (cleaned text.toList) with
  | none => .error .relative
  | some (scheme, rest) =>
    match kindOf scheme with
    | .file => parseFile rest
    | .special => afterSlashes scheme true (rest.dropWhile (isSlash true))
    | .other => parseOther scheme rest

def pathText (u : Url) : List Char :=
  match u.path with
  | .opaqueText s => s
  | .segments segments => segments.flatMap ('/' :: ·)

def target (u : Url) : List Char :=
  u.pathText ++
    match u.query with
    | some q => '?' :: q
    | none => []

/-- The port that is used: the one given, or the scheme's own. -/
def effectivePort? (u : Url) : Option Nat :=
  u.port.or (defaultPort? u.scheme)

/-- The origin that an address has of its own, as those of special schemes other than `file` do: the
scheme, the host, and the port where it is not the scheme's own. -/
def ownOrigin? (u : Url) : Option String :=
  match kindOf u.scheme, u.host with
  | .special, some host =>
    let port :=
      match u.port with
      | some n => ':' :: Host.decimal n
      | none => []
    some (String.ofList (u.scheme ++ "://".toList ++ host.text ++ port))
  | _, _ => none

/-- The origin of an address around which at most `depth` addresses are wrapped. -/
def originWithin : Nat → Url → Option String
  | 0, _ => none
  | depth + 1, u =>
    if u.scheme = "blob".toList then
      match parse (String.ofList u.pathText) with
      | .ok inner => originWithin depth inner
      | .error _ => none
    else u.ownOrigin?

/-- The origin of an address. An address of the scheme `blob` wraps another one, whose origin it
has; each wrapping takes up a part of the path. -/
def origin? (u : Url) : Option String := originWithin (u.pathText.length + 1) u

end Url

end ChatTerminal.Web
