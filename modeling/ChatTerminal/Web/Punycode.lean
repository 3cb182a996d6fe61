/-!
# Punycode

The encoding of arbitrary characters in letters, digits and hyphens. Characters beyond ASCII are
written in increasing order, each as the distance from the last one, in a positional system whose
digits have varying ranges.
-/

namespace ChatTerminal.Web.Punycode

def digitChar (d : Nat) : Char :=
  if d < 26 then Char.ofNat (0x61 + d) else Char.ofNat (0x30 + d - 26)

def digitValue? (c : Char) : Option Nat :=
  let n := c.toNat
  if 0x61 ≤ n && n ≤ 0x7A then some (n - 0x61)
  else if 0x41 ≤ n && n ≤ 0x5A then some (n - 0x41)
  else if 0x30 ≤ n && n ≤ 0x39 then some (n - 0x30 + 26)
  else none

/-- The digit at position `k` ends a number if it is below this. -/
def threshold (k bias : Nat) : Nat :=
  if k ≤ bias then 1 else if bias + 26 ≤ k then 26 else k - bias

theorem threshold_pos (k bias : Nat) : 1 ≤ threshold k bias := by
  unfold threshold
  split
  · omega
  · split <;> omega

theorem threshold_le (k bias : Nat) : threshold k bias ≤ 26 := by
  unfold threshold
  split
  · omega
  · split <;> omega

/-- Divides a distance by 35 until it is at most 455, counting positions. -/
def scale (delta k : Nat) : Nat × Nat :=
  if 455 < delta then scale (delta / 35) (k + 36) else (delta, k)
termination_by delta
decreasing_by exact Nat.div_lt_self (by omega) (by omega)

/-- The bias after a distance was written for the `count`-th character. -/
def adapt (delta count : Nat) (first : Bool) : Nat :=
  let delta := if first then delta / 700 else delta / 2
  let (delta, k) := scale (delta + delta / count) 0
  k + 36 * delta / (delta + 38)

/-- The digits of a distance, from the position `k` on. -/
def encodeDigits (bias k q : Nat) : List Char :=
  let t := threshold k bias
  if q < t then [digitChar q]
  else digitChar (t + (q - t) % (36 - t)) :: encodeDigits bias (k + 36) ((q - t) / (36 - t))
termination_by q
decreasing_by
  have h₁ := threshold_pos k bias
  have h₂ := threshold_le k bias
  calc (q - threshold k bias) / (36 - threshold k bias)
      ≤ q - threshold k bias := Nat.div_le_self _ _
    _ < q := by omega

structure Encoder where
  out : List Char
  delta : Nat
  bias : Nat
  count : Nat

/-- Passes one character of the text while the characters `m` are written. -/
def encodeStep (basic m : Nat) (e : Encoder) (c : Char) : Encoder :=
  if c.toNat < m then { e with delta := e.delta + 1 }
  else if c.toNat = m then
    { out := e.out ++ encodeDigits e.bias 36 e.delta
      delta := 0
      bias := adapt e.delta (e.count + 1) (e.count = basic)
      count := e.count + 1 }
  else e

def encode (s : List Char) : List Char :=
  let basic := s.filter (·.toNat < 0x80)
  let beyond := ((s.filter (0x80 ≤ ·.toNat)).map Char.toNat).mergeSort.eraseDups
  let lead := if basic.isEmpty then [] else basic ++ ['-']
  let (e, _) := beyond.foldl (fun (e, n) m =>
    let e := { e with delta := e.delta + (m - n) * (e.count + 1) }
    let e := s.foldl (encodeStep basic.length m) e
    ({ e with delta := e.delta + 1 }, m + 1))
    ((⟨[], 0, 72, basic.length⟩ : Encoder), 128)
  lead ++ e.out

/-- Reads one distance from the position `k` on, where a digit weighs `w`: the distance added to
`i`, and what follows. -/
def decodeDigits (bias : Nat) : List Char → Nat → Nat → Nat → Option (Nat × List Char)
  | [], _, _, _ => none
  | c :: rest, k, w, i =>
    match digitValue? c with
    | none => none
    | some d =>
      if d < threshold k bias then some (i + d * w, rest)
      else decodeDigits bias rest (k + 36) (w * (36 - threshold k bias)) (i + d * w)

theorem length_lt_of_decodeDigits {bias : Nat} {s : List Char} {k w i : Nat}
    {r : Nat × List Char} (h : decodeDigits bias s k w i = some r) :
    r.2.length < s.length := by
  induction s generalizing k w i with
  | nil => simp [decodeDigits] at h
  | cons c rest ih =>
    rw [decodeDigits] at h
    split at h
    · simp at h
    · split at h
      · rw [← Option.some.inj h]
        simp
      · have := ih h
        simp
        omega

/-- Inserts the characters that the distances name into `out`. -/
def decodeFrom (bias n i : Nat) (out : List Char) : List Char → Option (List Char)
  | [] => some out
  | c :: rest =>
    match h : decodeDigits bias (c :: rest) 36 1 i with
    | none => none
    | some (j, rest') =>
      let count := out.length + 1
      let m := n + j / count
      let place := j % count
      if m < 0xD800 || (0xDFFF < m && m < 0x110000) then
        decodeFrom (adapt (j - i) count (i = 0)) m (place + 1)
          (out.insertIdx place (Char.ofNat m)) rest'
      else none
termination_by s => s.length
decreasing_by
  have := length_lt_of_decodeDigits h
  simpa using this

/-- The text that a Punycode text encodes. Its last hyphen ends the ASCII part. -/
def decode (s : List Char) : Option (List Char) :=
  let tail := (s.reverse.takeWhile (· ≠ '-')).reverse
  let basic := (s.take (s.length - tail.length)).dropLast
  if s.any (0x80 ≤ ·.toNat) then none else decodeFrom 72 128 0 basic tail

end ChatTerminal.Web.Punycode
