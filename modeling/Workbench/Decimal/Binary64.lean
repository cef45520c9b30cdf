/-!
# Numbers with a 53 bit significand

The finite numbers of the binary64 format, kept as a sign, a significand and a power of two.
Every operation is an exact quotient of natural numbers rounded once, to the nearest number with
ties to the even significand, so that no result depends on the arithmetic of the machine.
-/

namespace Workbench.Decimal

/-- The magnitude `significand * 2 ^ exponent`. In a rounded value the significand is below
`2 ^ 53` and the exponent lies between -1074 and 971. -/
structure Magnitude where
  /-- The significand, below `2 ^ 53`. -/
  significand : Nat
  /-- The power of two. -/
  exponent : Int
  deriving DecidableEq, Repr

/-- A finite binary64 number; zero has a sign too. -/
structure Binary64 where
  /-- Whether the sign is minus. -/
  negative : Bool
  /-- The number without its sign. -/
  magnitude : Magnitude
  deriving DecidableEq, Repr

/-- The quotient rounded to the nearest integer, a half to the even one. -/
def divNearestEven (num den : Nat) : Nat :=
  let q := num / den
  let r := num % den
  if 2 * r < den then q
  else if den < 2 * r then q + 1
  else q + q % 2

namespace Magnitude

/-- The magnitude zero. -/
def zero : Magnitude := ⟨0, -1074⟩

/-- The quotient `num / (den * 2 ^ e)` as a quotient of natural numbers. -/
def scaled (num den : Nat) (e : Int) : Nat × Nat :=
  match e with
  | .ofNat k => (num, den * Nat.pow 2 k)
  | .negSucc k => (num * Nat.pow 2 (k + 1), den)

/-- The exponent at which the quotient has 53 bits before the point, but not below -1074. -/
def exponentFor (num den : Nat) : Int :=
  let guess : Int := (Nat.log2 num : Int) - (Nat.log2 den : Int) - 53
  let guess := if guess < -1074 then -1074 else guess
  let (n, d) := scaled num den guess
  if n / d < Nat.pow 2 53 then guess else guess + 1

/-- The magnitude nearest to `num / den`; `none` when it lies beyond the greatest one. -/
def ofRatio (num den : Nat) : Option Magnitude :=
  if num = 0 then some zero
  else
    let e := exponentFor num den
    let (n, d) := scaled num den e
    let m := divNearestEven n d
    let (m, e) := if m = Nat.pow 2 53 then (Nat.pow 2 52, e + 1) else (m, e)
    if 971 < e then none else some ⟨m, e⟩

/-- A magnitude as a quotient of natural numbers. -/
def ratio (x : Magnitude) : Nat × Nat :=
  match x.exponent with
  | .ofNat k => (x.significand * Nat.pow 2 k, 1)
  | .negSucc k => (x.significand, Nat.pow 2 (k + 1))

/-- The product, rounded. -/
def mul (x y : Magnitude) : Option Magnitude :=
  ofRatio (x.ratio.1 * y.ratio.1) (x.ratio.2 * y.ratio.2)

/-- The quotient by a magnitude that is not zero, rounded. -/
def div (x y : Magnitude) : Option Magnitude :=
  ofRatio (x.ratio.1 * y.ratio.2) (x.ratio.2 * y.ratio.1)

/-- The magnitude nearest to a power of ten. -/
def powerOfTen (k : Nat) : Option Magnitude := ofRatio (Nat.pow 10 k) 1

end Magnitude

/-- The number `± digits * 10 ^ exponent`, rounded once; `none` when it is out of range. -/
def Binary64.ofDecimal (negative : Bool) (digits : Nat) (exponent : Int) : Option Binary64 :=
  let m :=
    match exponent with
    | .ofNat k => Magnitude.ofRatio (digits * Nat.pow 10 k) 1
    | .negSucc k => Magnitude.ofRatio digits (Nat.pow 10 (k + 1))
  m.map fun m => ⟨negative, m⟩

end Workbench.Decimal
