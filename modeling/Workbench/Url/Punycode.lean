/-!
# Punycode

The encoding of a label with characters beyond ASCII as letters, digits and hyphens. The ASCII
characters come first; the others are inserted in the order of their code points, each described
by how far the insertion lies behind the one before it. Distances are written in a variable-length
form whose digit thresholds adapt to the distances seen so far.
-/

namespace Workbench.Url.Punycode

/-- The digit for a value below 36. -/
def digit (d : Nat) : Char := if d < 26 then Char.ofNat (97 + d) else Char.ofNat (22 + d)

/-- The value of a digit, in either case. -/
def digitValue (c : Char) : Option Nat :=
  if 'a' ≤ c ∧ c ≤ 'z' then some (c.toNat - 97)
  else if 'A' ≤ c ∧ c ≤ 'Z' then some (c.toNat - 65)
  else if '0' ≤ c ∧ c ≤ '9' then some (c.toNat - 22)
  else none

/-- The threshold of the digit in position `k`, counted in steps of 36. -/
def threshold (k bias : Nat) : Nat :=
  if k ≤ bias then 1 else if bias + 26 ≤ k then 26 else k - bias

theorem threshold_pos (k bias : Nat) : 1 ≤ threshold k bias := by
  unfold threshold
  repeat' split
  all_goals omega

/-- Divides a distance by 35 until it is at most 455, counting 36 for each division. -/
def shrink (distance k : Nat) : Nat × Nat :=
  if 455 < distance then shrink (distance / 35) (k + 36) else (distance, k)
termination_by distance
decreasing_by exact Nat.div_lt_self (by omega) (by omega)

/-- The bias after a distance. -/
def adapt (distance count : Nat) (first : Bool) : Nat :=
  let halved := if first then distance / 700 else distance / 2
  let (rest, k) := shrink (halved + halved / count) 0
  k + 36 * rest / (rest + 38)

/-- The digits of a distance. -/
def writeDistance (bias k q : Nat) : List Char :=
  let t := threshold k bias
  if q < t then [digit q]
  else digit (t + (q - t) % (36 - t)) :: writeDistance bias (k + 36) ((q - t) / (36 - t))
termination_by q
decreasing_by
  have := threshold_pos k bias
  calc (q - threshold k bias) / (36 - threshold k bias)
      ≤ q - threshold k bias := Nat.div_le_self _ _
    _ < q := by omega

/-- An encoder at work. -/
structure Encoder where
  /-- What is written so far. -/
  out : List Char
  /-- The distance since the last insertion. -/
  distance : Nat
  /-- The bias of the next distance. -/
  bias : Nat
  /-- How many characters are in place. -/
  placed : Nat

/-- Passes over one character while inserting those with code point `m`. -/
def Encoder.visit (basic m : Nat) (e : Encoder) (c : Char) : Encoder :=
  if c.toNat < m then { e with distance := e.distance + 1 }
  else if c.toNat = m then
    { out := e.out ++ writeDistance e.bias 36 e.distance
      distance := 0
      bias := adapt e.distance (e.placed + 1) (e.placed == basic)
      placed := e.placed + 1 }
  else e

/-- Inserts the characters with the given code points, which ascend; `n` is the least code point
not yet dealt with. -/
def Encoder.insertAll (label : List Char) (basic : Nat) : List Nat → Nat → Encoder → Encoder
  | [], _, e => e
  | m :: ms, n, e =>
    let e := { e with distance := e.distance + (m - n) * (e.placed + 1) }
    let e := label.foldl (Encoder.visit basic m) e
    insertAll label basic ms (m + 1) { e with distance := e.distance + 1 }

/-- The code points beyond ASCII of a label, in ascending order and each once. -/
def codePoints (label : List Char) : List Nat :=
  ((label.map Char.toNat).filter (128 ≤ ·)).mergeSort.eraseDups

/-- Encodes a label, without the mark that tells encoded labels from others. -/
def encode (label : List Char) : List Char :=
  let basic := label.filter fun c => c.toNat < 128
  let start : Encoder := ⟨[], 0, 72, basic.length⟩
  basic ++ (if basic.isEmpty then [] else ['-']) ++
    (Encoder.insertAll label basic.length (codePoints label) 128 start).out

/-- A decoder at work. -/
structure Decoder where
  /-- The label so far. -/
  label : List Char
  /-- The code point of the last insertion. -/
  codePoint : Nat
  /-- The position for the next insertion, before the distance is added. -/
  position : Nat
  /-- The bias of the next distance. -/
  bias : Nat
  /-- The distance read so far. -/
  distance : Nat
  /-- The weight of the next digit. -/
  weight : Nat
  /-- The position of the next digit within its distance, in steps of 36. -/
  k : Nat

/-- Reads one digit; `none` for a character that is no digit and for code points out of range. -/
def Decoder.step (d : Decoder) (c : Char) : Option Decoder := do
  let v ← digitValue c
  let t := threshold d.k d.bias
  let distance := d.distance + v * d.weight
  if t ≤ v then
    return { d with distance := distance, weight := d.weight * (36 - t), k := d.k + 36 }
  else
    let total := d.position + distance
    let size := d.label.length + 1
    let n := d.codePoint + total / size
    let place := total % size
    if n.isValidChar then
      return {
        label := d.label.take place ++ Char.ofNat n :: d.label.drop place
        codePoint := n
        position := place + 1
        bias := adapt distance size (d.position == 0)
        distance := 0
        weight := 1
        k := 36 }
    else none

/-- Decodes a label without its mark. -/
def decode (text : List Char) : Option (List Char) := do
  let reversed := text.reverse
  let digits := (reversed.takeWhile (· ≠ '-')).reverse
  let basic := ((reversed.dropWhile (· ≠ '-')).drop 1).reverse
  if basic.any fun c => 128 ≤ c.toNat then none
  let d ← digits.foldlM Decoder.step ⟨basic, 128, 0, 72, 0, 1, 36⟩
  if d.weight = 1 ∧ d.k = 36 then return d.label else none

end Workbench.Url.Punycode
