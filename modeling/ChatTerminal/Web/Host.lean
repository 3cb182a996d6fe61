import ChatTerminal.Web.Domain
import ChatTerminal.Web.Percent
/-!
# Hosts

A host is a domain name, an address of four bytes, or an address of eight groups of sixteen bits.
-/

namespace ChatTerminal.Web

open Text

inductive UrlError where
  | emptyHost
  | badDomain
  | badPort
  | badIpv4
  | badIpv6
  | badHostCharacter
  | relative
deriving Repr, DecidableEq

def UrlError.message : UrlError → String
  | .emptyHost => "empty host"
  | .badDomain => "invalid international domain name"
  | .badPort => "invalid port number"
  | .badIpv4 => "invalid IPv4 address"
  | .badIpv6 => "invalid IPv6 address"
  | .badHostCharacter => "invalid domain character"
  | .relative => "relative URL without a base"

inductive Host where
  | domain (name : List Char)
  | ipv4 (address : Nat)
  | ipv6 (groups : List Nat)
deriving Repr, DecidableEq

namespace Host

def ofDigits (base : Nat) (digits : List Nat) : Nat :=
  digits.foldl (fun n d => n * base + d) 0

def number? (base : Nat) (s : List Char) : Option Nat :=
  (s.mapM fun c => (hexDigit? c).filter (· < base)).map (ofDigits base)

/-- A part of an address of four bytes: decimal, hexadecimal after `0x`, octal after `0`. -/
def ipv4Part? : List Char → Option Nat
  | [] => none
  | '0' :: 'x' :: s | '0' :: 'X' :: s => number? 16 s
  | ['0'] => some 0
  | '0' :: s => number? 8 s
  | s => number? 10 s

/-- The parts of a dotted name; a final dot adds none. -/
def dottedParts (s : List Char) : List (List Char) :=
  let parts := pieces (· == '.') s
  if parts.getLast? = some [] then parts.dropLast else parts

/-- A name is read as an address if its last part is a number. -/
def endsInNumber (s : List Char) : Bool :=
  match (dottedParts s).getLast? with
  | none => false
  | some last => (!last.isEmpty && last.all Char.isDigit) || (ipv4Part? last).isSome

/-- An address of at most four numbers. The last one fills all the bytes that are left. -/
def ipv4? (s : List Char) : Option Nat := do
  let parts := dottedParts s
  if 4 < parts.length then none
  else
    let numbers ← parts.mapM ipv4Part?
    let last ← numbers.getLast?
    let firsts := numbers.dropLast
    if firsts.all (· < 256) && last < Nat.pow 256 (4 - firsts.length) then
      some (ofDigits 256 (firsts ++ List.replicate (4 - firsts.length) 0) + last)
    else none

/-- A number below 256 without a leading zero. -/
def byte? (s : List Char) : Option Nat :=
  match s with
  | [] => none
  | '0' :: _ :: _ => none
  | s => if s.length ≤ 3 then (number? 10 s).filter (· < 256) else none

/-- The groups that one part between colons stands for: one of at most four hex digits, or, in
the last part, two written as four decimal bytes. -/
def ipv6Part? (last : Bool) (s : List Char) : Option (List Nat) :=
  if last && s.contains '.' then do
    match ← (pieces (· == '.') s).mapM byte? with
    | [a, b, c, d] => some [a * 256 + b, c * 256 + d]
    | _ => none
  else if s.isEmpty || 4 < s.length then none
  else (number? 16 s).map ([·])

/-- The groups of parts none of which is empty. -/
def ipv6Groups? (final : Bool) (parts : List (List Char)) : Option (List Nat) :=
  let firsts := parts.dropLast.mapM (ipv6Part? false)
  match parts.getLast? with
  | none => some []
  | some last => do
    let groups ← firsts
    let ends ← ipv6Part? final last
    some (groups.flatten ++ ends)

/-- The text starts or ends with two colons or with none. -/
def dropDoubled (parts : List (List Char)) : Option (List (List Char)) :=
  match parts with
  | [] :: [] :: rest => some ([] :: rest)
  | [] :: _ => none
  | parts => some parts

/-- An address of eight groups. One run of zero groups may be left out. -/
def ipv6? (s : List Char) : Option (List Nat) := do
  if s.length < 2 then none
  else
    let parts ← dropDoubled (pieces (· == ':') s)
    let parts := (← dropDoubled parts.reverse).reverse
    let before := parts.takeWhile (! ·.isEmpty)
    match parts.dropWhile (! ·.isEmpty) with
    | [] =>
      let groups ← ipv6Groups? true before
      if groups.length = 8 then some groups else none
    | _ :: after =>
      let heads ← ipv6Groups? false before
      let tails ← ipv6Groups? true after
      let count := heads.length + tails.length
      if count ≤ 7 then some (heads ++ List.replicate (8 - count) 0 ++ tails) else none

def parse (s : List Char) : Except UrlError Host :=
  match s with
  | '[' :: rest =>
    if rest.getLast? = some ']' then
      match ipv6? rest.dropLast with
      | some groups => .ok (.ipv6 groups)
      | none => .error .badIpv6
    else .error .badIpv6
  | s =>
    match domainAscii? isForbiddenInDomain (ofBytes (percentDecode s)) with
    | none => .error .badDomain
    | some name =>
      if name.isEmpty then .error .emptyHost
      else if endsInNumber name then
        match ipv4? name with
        | some address => .ok (.ipv4 address)
        | none => .error .badIpv4
      else .ok (.domain name)

/-- The host of an address of any other scheme. -/
def parseOpaque (s : List Char) : Except UrlError Host :=
  match s with
  | '[' :: rest =>
    if rest.getLast? = some ']' then
      match ipv6? rest.dropLast with
      | some groups => .ok (.ipv6 groups)
      | none => .error .badIpv6
    else .error .badIpv6
  | s =>
    if s.any fun c => "\x00\t\n\r #/:<>?@[\\]^|".toList.contains c then .error .badHostCharacter
    else .ok (.domain (percentEncode isControl s))

def decimal (n : Nat) : List Char := (Nat.toDigits 10 n)

def ipv4Text (address : Nat) : List Char :=
  [address / 16777216 % 256, address / 65536 % 256, address / 256 % 256, address % 256].map decimal
    |>.intersperse ['.'] |>.flatten

/-- The lengths of the runs of zero groups that start at each place. -/
def zeroRuns : List Nat → List Nat
  | [] => []
  | g :: groups =>
    let runs := zeroRuns groups
    (if g = 0 then runs.headD 0 + 1 else 0) :: runs

/-- The place and the length of the first longest run of at least two zero groups. -/
def longestZeros (groups : List Nat) : Option (Nat × Nat) :=
  let runs := zeroRuns groups
  let longest := runs.foldl max 0
  if longest < 2 then none else (runs.findIdx? (· == longest)).map (·, longest)

def groupsText (groups : List Nat) : List Char :=
  (groups.map (Nat.toDigits 16 ·)).intersperse [':'] |>.flatten

def ipv6Text (groups : List Nat) : List Char :=
  match longestZeros groups with
  | none => groupsText groups
  | some (place, count) =>
    groupsText (groups.take place) ++ [':', ':'] ++ groupsText (groups.drop (place + count))

def text : Host → List Char
  | .domain name => name
  | .ipv4 address => ipv4Text address
  | .ipv6 groups => ['['] ++ ipv6Text groups ++ [']']

def isLoopback : Host → Bool
  | .domain name => name == "localhost".toList
  | .ipv4 address => address / 16777216 == 127
  | .ipv6 groups => groups == [0, 0, 0, 0, 0, 0, 0, 1]

end Host

end ChatTerminal.Web
