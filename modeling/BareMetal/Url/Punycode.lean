/-!
# Punycode

Writes a label beyond ASCII with the letters, digits and hyphens of host names:
first its ASCII characters, then where the others belong, as differences in a
base of 36 whose thresholds adapt to the label.
-/

namespace BareMetal.Punycode

def digit (d : Nat) : Char := if d < 26 then Char.ofNat (97 + d) else Char.ofNat (22 + d)

def digitValue? (c : Char) : Option Nat :=
  if 'a' ≤ c ∧ c ≤ 'z' then some (c.toNat - 97)
  else if 'A' ≤ c ∧ c ≤ 'Z' then some (c.toNat - 65)
  else if c.isDigit then some (c.toNat - 22)
  else none

/-- Where the digits at place `k` begin to mark the end of a number. -/
def threshold (bias k : Nat) : Nat := max 1 (min 26 (k - bias))

/-- Divides by 35 until the rest is small, counting in steps of 36. -/
def settle : (fuel delta k : Nat) → Nat × Nat
  | 0, delta, k => (delta, k)
  | fuel + 1, delta, k => if 455 < delta then settle fuel (delta / 35) (k + 36) else (delta, k)

/-- The bias after a number `delta` by which the label grew to `size`. -/
def adapt (delta size : Nat) (first : Bool) : Nat :=
  let d := if first then delta / 700 else delta / 2
  let (d, k) := settle 64 (d + d / size) 0
  k + 36 * d / (d + 38)

/-- A number in digits from place `k` on. -/
def digits (bias : Nat) : (fuel k n : Nat) → List Char
  | 0, _, n => [digit n]
  | fuel + 1, k, n =>
    let t := threshold bias k
    if n < t then [digit n]
    else digit (t + (n - t) % (36 - t)) :: digits bias fuel (k + 36) ((n - t) / (36 - t))

structure State where
  delta : Nat
  bias : Nat
  handled : Nat
  first : Bool
  output : List Char

/-- Writes each occurrence of `n` in the label, counting the smaller characters between. -/
def insertAll (n : Nat) : State → List Nat → State
  | st, [] => { st with delta := st.delta + 1 }
  | st, c :: rest =>
    if c < n then insertAll n { st with delta := st.delta + 1 } rest
    else if c = n then
      insertAll n
        { delta := 0
          bias := adapt st.delta (st.handled + 1) st.first
          handled := st.handled + 1
          first := false
          output := st.output ++ digits st.bias 64 36 st.delta } rest
    else insertAll n st rest

/-- Goes through the characters from `n` on in ascending order, one round for each. -/
def rounds (label : List Nat) : (fuel n : Nat) → State → State
  | 0, _, st => st
  | fuel + 1, n, st =>
    match (label.filter (n ≤ ·)).min? with
    | none => st
    | some m =>
      let st := { st with delta := st.delta + (m - n) * (st.handled + 1) }
      rounds label fuel (m + 1) (insertAll m st label)

def encode (label : List Char) : List Char :=
  let basic := label.filter fun c => c.toNat < 128
  let st := rounds (label.map (·.toNat)) label.length 128
    ⟨0, 72, basic.length, true, if basic.isEmpty then [] else basic ++ ['-']⟩
  st.output

/-! ## Decoding -/

/-- Reads a number from place `k` on, each digit weighing `w`. -/
def number (bias : Nat) : (w k acc : Nat) → List Char → Option (Nat × List Char)
  | _, _, _, [] => none
  | w, k, acc, c :: rest => do
    let d ← digitValue? c
    let t := threshold bias k
    let acc := acc + d * w
    if d < t then some (acc, rest) else number bias (w * (36 - t)) (k + 36) acc rest

def insertions : (fuel n i bias : Nat) → (first : Bool) → List Char → List Char →
    Option (List Char)
  | 0, _, _, _, _, label, input => if input.isEmpty then some label else none
  | fuel + 1, n, i, bias, first, label, input =>
    if input.isEmpty then some label
    else do
      let (delta, rest) ← number bias 1 36 0 input
      let size := label.length + 1
      let at_ := i + delta
      let m := n + at_ / size
      if m < 0xd800 ∨ (0xdfff < m ∧ m < 0x110000) then
        let place := at_ % size
        insertions fuel m (place + 1) (adapt delta size first) false
          (label.take place ++ Char.ofNat m :: label.drop place) rest
      else none

def decode? (s : List Char) : Option (List Char) :=
  let tail := (s.reverse.takeWhile (· != '-')).reverse
  let basic := (s.take (s.length - tail.length)).dropLast
  if s.all fun c => c.toNat < 128 then insertions s.length 128 0 72 true basic tail else none

end BareMetal.Punycode
