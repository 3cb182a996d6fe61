import ChatTerminal.Text.Utf8
/-!
# Percent encoding and form encoding

Bytes written as a percent sign and two hex digits. The form encoding also writes a space as a
plus sign; a form text is a list of pairs of a name and a value.
-/

namespace ChatTerminal.Web

open Text

def hexUpper (d : Nat) : Char :=
  if d < 10 then Char.ofNat (0x30 + d) else Char.ofNat (0x41 + d - 10)

def percentByte (b : Nat) : List Char :=
  ['%', hexUpper (b / 16 % 16), hexUpper (b % 16)]

/-- Writes the bytes of every character in `reserved` and of every character beyond ASCII with
percent signs. -/
def percentEncode (reserved : Char → Bool) (s : List Char) : List Char :=
  s.flatMap fun c =>
    if 0x80 ≤ c.toNat || reserved c then (charBytes c).flatMap percentByte else [c]

def hexDigit? (c : Char) : Option Nat :=
  if '0' ≤ c && c ≤ '9' then some (c.toNat - 0x30)
  else if 'a' ≤ c && c ≤ 'f' then some (c.toNat - 0x61 + 10)
  else if 'A' ≤ c && c ≤ 'F' then some (c.toNat - 0x41 + 10)
  else none

/-- The bytes of a text in which a percent sign and two hex digits stand for one byte. A percent
sign without two hex digits stands for itself. -/
def percentDecode : List Char → List Nat
  | '%' :: a :: b :: s =>
    match hexDigit? a, hexDigit? b with
    | some x, some y => (x * 16 + y) :: percentDecode s
    | _, _ => 0x25 :: percentDecode (a :: b :: s)
  | c :: s => charBytes c ++ percentDecode s
  | [] => []

namespace Form

def isPlain (c : Char) : Bool :=
  c.isAlphanum || c == '*' || c == '-' || c == '.' || c == '_'

def encodeByte (b : Nat) : List Char :=
  if isPlain (Char.ofNat b) then [Char.ofNat b]
  else if b = 0x20 then ['+']
  else percentByte b

def encode (s : List Char) : List Char :=
  (bytes s).flatMap encodeByte

def decode (s : List Char) : List Char :=
  ofBytes (percentDecode (s.map fun c => if c = '+' then ' ' else c))

end Form

end ChatTerminal.Web
