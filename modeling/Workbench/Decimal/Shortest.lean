import Workbench.Decimal.Binary64

/-!
# Shortest decimal text

The shortest run of decimal digits that rounds back to a given binary64 number, the nearest such
run when there are several, and the text in which a number is shown: positional for moderate
sizes, with an exponent otherwise.

The numbers that round to `m * 2 ^ e` form an interval around it, half a unit wide to each side
(a quarter below a power of two), whose ends belong to it when `m` is even. For one digit, then
two, and so on up to seventeen, the two neighbours of the number on the decimal grid of that
width are tried, in exact arithmetic.
-/

namespace Workbench.Decimal

/-- Digits and a power of ten: the number `digits * 10 ^ exponent`. -/
structure Digits where
  /-- The digits as a number. -/
  digits : Nat
  /-- The power of ten of the last digit. -/
  exponent : Int
  deriving DecidableEq, Repr

/-- Whether `a / b < c / d`, for positive denominators. -/
def ratioLt (x y : Nat × Nat) : Bool := x.1 * y.2 < y.1 * x.2

/-- A natural number times a power of ten, as a quotient. -/
def timesPowerOfTen (n : Nat) : Int → Nat × Nat
  | .ofNat k => (n * Nat.pow 10 k, 1)
  | .negSucc k => (n, Nat.pow 10 (k + 1))

/-- The quotient `x / 10 ^ k` rounded down. -/
def floorOnGrid (x : Nat × Nat) : Int → Nat
  | .ofNat k => x.1 / (x.2 * Nat.pow 10 k)
  | .negSucc k => x.1 * Nat.pow 10 (k + 1) / x.2

/-- The ends of the interval of numbers that round to a magnitude. -/
def Magnitude.interval (x : Magnitude) : (Nat × Nat) × (Nat × Nat) :=
  let quarter (n : Nat) : Nat × Nat := (Magnitude.mk n (x.exponent - 2)).ratio
  let below := if x.significand = Nat.pow 2 52 ∧ -1074 < x.exponent then 1 else 2
  (quarter (4 * x.significand - below), quarter (4 * x.significand + 2))

/-- Whether a quotient rounds to a magnitude. -/
def Magnitude.holds (x : Magnitude) (r : Nat × Nat) : Bool :=
  let (low, high) := x.interval
  if x.significand % 2 = 0 then !ratioLt r low && !ratioLt high r
  else ratioLt low r && ratioLt r high

/-- Of the two neighbours on the grid `10 ^ k`, the nearer one that rounds to the magnitude, the
even one when both are as near. -/
def Magnitude.onGrid? (x : Magnitude) (k : Int) : Option Nat :=
  let d := floorOnGrid x.ratio k
  let low := timesPowerOfTen d k
  let high := timesPowerOfTen (d + 1) k
  let twice : Nat × Nat := (2 * x.ratio.1, x.ratio.2)
  let middle := timesPowerOfTen (2 * d + 1) k
  match x.holds low, x.holds high with
  | true, true =>
    if ratioLt twice middle then some d
    else if ratioLt middle twice then some (d + 1)
    else some (d + d % 2)
  | true, false => some d
  | false, true => some (d + 1)
  | false, false => none

/-- The power of ten of the first digit of a magnitude that is not zero. -/
def Magnitude.decimalExponent (x : Magnitude) : Int :=
  let fits (p : Int) : Bool := !ratioLt x.ratio (timesPowerOfTen 1 p)
  (((List.range 633).map fun i : Nat => (308 : Int) - (i : Int)).find? fits).getD (-324)

/-- Drops the zeros at the end. -/
def Digits.stripZeros (fuel : Nat) (x : Digits) : Digits :=
  match fuel with
  | 0 => x
  | fuel + 1 =>
    if x.digits ≠ 0 ∧ x.digits % 10 = 0 then
      Digits.stripZeros fuel ⟨x.digits / 10, x.exponent + 1⟩
    else x

/-- The shortest digits that round to a magnitude; zero has none. -/
def Magnitude.shortest (x : Magnitude) : Digits :=
  let top := x.decimalExponent
  let ofSize? (n : Nat) : Option Digits :=
    let k := top - n
    (x.onGrid? k).map fun d => ⟨d, k⟩
  (((List.range 17).findSome? ofSize?).getD ⟨0, 0⟩).stripZeros 18

/-- How a number is written. -/
structure Layout where
  /-- Least power of ten of the first digit that is written without an exponent. -/
  leastPositional : Int
  /-- Greatest such power of ten. -/
  greatestPositional : Int
  /-- Least number of digits of an exponent. -/
  exponentDigits : Nat

/-- Numbers from 0.00001 up to sixteen digits before the point are positional and always have a
point; an exponent has a sign and two digits at least. -/
def Layout.plain : Layout := ⟨-5, 15, 2⟩

/-- Every number is written without an exponent. -/
def Layout.positional : Layout := ⟨-400, 400, 0⟩

/-- The text of a magnitude in a layout. -/
def Layout.text (layout : Layout) (x : Magnitude) : String :=
  if x.significand = 0 then "0.0"
  else
    let shortest := x.shortest
    let digits := toString shortest.digits
    let top : Int := shortest.exponent + digits.length - 1
    if layout.leastPositional ≤ top ∧ top ≤ layout.greatestPositional then
      if 0 ≤ shortest.exponent then
        digits ++ String.ofList (List.replicate shortest.exponent.toNat '0') ++ ".0"
      else if 0 ≤ top then
        let whole := top.toNat + 1
        String.ofList (digits.toList.take whole) ++ "." ++ String.ofList (digits.toList.drop whole)
      else
        "0." ++ String.ofList (List.replicate (-top - 1).toNat '0') ++ digits
    else
      let fraction := String.ofList (digits.toList.drop 1)
      let size := toString top.natAbs
      String.ofList (digits.toList.take 1) ++ (if fraction.isEmpty then "" else "." ++ fraction) ++
        "e" ++ (if top < 0 then "-" else "+") ++
        String.ofList (List.replicate (layout.exponentDigits - size.length) '0') ++ size

/-- The text of a number in a layout. -/
def Binary64.textIn (layout : Layout) (x : Binary64) : String :=
  (if x.negative then "-" else "") ++ layout.text x.magnitude

/-- The text of a number. -/
def Binary64.text (x : Binary64) : String := x.textIn .plain

end Workbench.Decimal
