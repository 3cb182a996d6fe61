import ChatTerminal.Json.Token
/-!
# Values of JSON numbers

Which numbers are integers of 64 bits, and which lie in the range of double precision. The range
is decided on natural numbers: a number is taken as its leading digits, as far as they fit into
64 bits, times a power of ten; both factors are rounded to double precision, and their product
must not round to infinity.
-/

namespace ChatTerminal.Json

def ofDigits (ds : List Nat) : Nat :=
  ds.foldl (fun n d => n * 10 + d) 0

/-- The least number that 64 bits cannot hold. -/
def wordLimit : Nat := 18446744073709551616

namespace Numeral

def isInteger (n : Numeral) : Bool :=
  n.fraction.isNone && n.exponent.isNone

/-- The value as an unsigned integer of 64 bits. A minus sign is refused, also before zero. -/
def unsigned? (n : Numeral) : Option Nat :=
  if n.isInteger && !n.negative && ofDigits n.whole < wordLimit then some (ofDigits n.whole)
  else none

/-- The value as a signed integer of 64 bits. Minus zero is no integer. -/
def signed? (n : Numeral) : Option Int :=
  let v := ofDigits n.whole
  if !n.isInteger then none
  else if n.negative then
    if 0 < v && v ≤ wordLimit / 2 then some (-(v : Int)) else none
  else if v < wordLimit / 2 then some v
  else none

/-- Takes digits while the number they form fits into 64 bits: that number, how many digits were
taken, and how many were left. -/
def leading (start : Nat) : List Nat → Nat × Nat × Nat
  | [] => (start, 0, 0)
  | d :: ds =>
    if start * 10 + d < wordLimit then
      let (n, taken, left) := leading (start * 10 + d) ds
      (n, taken + 1, left)
    else (start, 0, ds.length + 1)

/-- The number as its leading digits and a power of ten. -/
def scaled (n : Numeral) : Nat × Int :=
  let (m, _, left) := leading 0 n.whole
  let (m, taken) :=
    match n.fraction with
    | none => (m, 0)
    | some ds =>
      let (m, taken, _) := leading m ds
      (m, taken)
  let e : Int :=
    match n.exponent with
    | none => 0
    | some (negative, ds) => if negative then -(ofDigits ds : Int) else ofDigits ds
  (m, e + left - taken)

/-- A natural number rounded to 53 significant bits, a half to the even neighbour. -/
def roundToDouble (n : Nat) : Nat :=
  let bits := if n = 0 then 0 else n.log2 + 1
  if bits ≤ 53 then n
  else
    let unit := Nat.pow 2 (bits - 53)
    let q := n / unit
    let r := n % unit
    if 2 * r < unit then q * unit
    else if unit < 2 * r then (q + 1) * unit
    else if q % 2 = 0 then q * unit
    else (q + 1) * unit

/-- The least natural number that rounds to infinity. -/
def infinityBound : Nat := Nat.pow 2 1024 - Nat.pow 2 970

/-- The number lies in the range of double precision. Only an integer that does not fit into 64
bits, or a number with a point or an exponent, can fail to. -/
def inRange (n : Numeral) : Bool :=
  let (m, e) := n.scaled
  if m = 0 || e < 0 then true
  else if 308 < e then false
  else roundToDouble m * roundToDouble (Nat.pow 10 e.toNat) < infinityBound

end Numeral

end ChatTerminal.Json
