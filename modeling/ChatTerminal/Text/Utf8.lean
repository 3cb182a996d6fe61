/-!
# UTF-8

The length of a text in bytes, its bytes, and the reading of arbitrary bytes in which every
ill-formed stretch becomes one replacement character.
-/

namespace ChatTerminal.Text

def byteLength (s : List Char) : Nat :=
  s.foldr (fun c bytes => c.utf8Size + bytes) 0

@[simp] theorem byteLength_nil : byteLength [] = 0 := rfl

@[simp] theorem byteLength_cons (c : Char) (s : List Char) :
    byteLength (c :: s) = c.utf8Size + byteLength s := rfl

theorem byteLength_append (s t : List Char) :
    byteLength (s ++ t) = byteLength s + byteLength t := by
  induction s with
  | nil => simp
  | cons c s ih => rw [List.cons_append, byteLength_cons, byteLength_cons, ih, Nat.add_assoc]

/-- Splits a text after the characters that fit into the first `n` bytes. -/
def splitAtByte : Nat → List Char → List Char × List Char
  | _, [] => ([], [])
  | n, c :: s =>
    if c.utf8Size ≤ n then
      let (before, after) := splitAtByte (n - c.utf8Size) s
      (c :: before, after)
    else ([], c :: s)

theorem splitAtByte_append (s t : List Char) :
    splitAtByte (byteLength s) (s ++ t) = (s, t) := by
  induction s with
  | nil =>
    cases t with
    | nil => rfl
    | cons c t =>
      have h : ¬ c.utf8Size ≤ 0 := by
        have := Char.utf8Size_pos c
        omega
      simp [splitAtByte, h]
  | cons c s ih => simp [splitAtByte, ih]

theorem splitAtByte_join (n : Nat) (s : List Char) :
    (splitAtByte n s).1 ++ (splitAtByte n s).2 = s := by
  fun_induction splitAtByte n s <;> simp_all

def charBytes (c : Char) : List Nat :=
  let n := c.toNat
  if n < 0x80 then [n]
  else if n < 0x800 then [0xC0 + n / 64, 0x80 + n % 64]
  else if n < 0x10000 then [0xE0 + n / 4096, 0x80 + n / 64 % 64, 0x80 + n % 64]
  else [0xF0 + n / 262144, 0x80 + n / 4096 % 64, 0x80 + n / 64 % 64, 0x80 + n % 64]

def bytes (s : List Char) : List Nat :=
  s.flatMap charBytes

/-- The character that stands for an ill-formed stretch. -/
def replacement : Char := Char.ofNat 0xFFFD

/-- How many further bytes a first byte announces, and the range its next byte must lie in.
The ranges keep out overlong forms, surrogates and numbers above the last code point. -/
def leadRule (b : Nat) : Option (Nat × Nat × Nat) :=
  if 0xC2 ≤ b && b ≤ 0xDF then some (1, 0x80, 0xBF)
  else if b == 0xE0 then some (2, 0xA0, 0xBF)
  else if b == 0xED then some (2, 0x80, 0x9F)
  else if 0xE1 ≤ b && b ≤ 0xEF then some (2, 0x80, 0xBF)
  else if b == 0xF0 then some (3, 0x90, 0xBF)
  else if 0xF1 ≤ b && b ≤ 0xF3 then some (3, 0x80, 0xBF)
  else if b == 0xF4 then some (3, 0x80, 0x8F)
  else none

/-- The code point bits that a first byte carries. -/
def leadBits (b : Nat) : Nat :=
  if b < 0xE0 then b % 32 else if b < 0xF0 then b % 16 else b % 8

/-- A character under way: the bits so far, the bytes missing, the range of the next byte. -/
structure Pending where
  bits : Nat
  missing : Nat
  low : Nat
  high : Nat

def startByte (b : Nat) : List Char × Option Pending :=
  if b < 0x80 then ([Char.ofNat b], none)
  else
    match leadRule b with
    | some (missing, low, high) => ([], some ⟨leadBits b, missing, low, high⟩)
    | none => ([replacement], none)

/-- Takes one byte. A byte that cannot continue the character under way ends it as ill-formed
and starts afresh. -/
def takeByte (pending : Option Pending) (b : Nat) : List Char × Option Pending :=
  match pending with
  | none => startByte b
  | some p =>
    if p.low ≤ b && b ≤ p.high then
      let bits := p.bits * 64 + b % 64
      if p.missing ≤ 1 then ([Char.ofNat bits], none)
      else ([], some ⟨bits, p.missing - 1, 0x80, 0xBF⟩)
    else
      let (out, next) := startByte b
      (replacement :: out, next)

/-- Reads bytes as UTF-8, with a replacement character for each maximal ill-formed stretch. -/
def ofBytes (bs : List Nat) : List Char :=
  let (out, pending) := bs.foldl (fun (out, pending) b =>
    let (more, next) := takeByte pending b
    (more.reverse ++ out, next)) (([] : List Char), (none : Option Pending))
  let out := if pending.isSome then replacement :: out else out
  out.reverse

end ChatTerminal.Text
