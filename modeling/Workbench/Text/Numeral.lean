/-!
# Numerals

Whole numbers written in decimal digits, below a limit. Digits are checked from the left, and the
first that is none, or that takes the number to the limit, is what is complained about.
-/

namespace Workbench.Text

/-- Why a text is no numeral. -/
inductive NumeralError where
  /-- There is no text. -/
  | empty
  /-- Something else than a digit stands there. -/
  | invalidDigit
  /-- The number is not below the limit. -/
  | tooLarge
  deriving DecidableEq, Repr

/-- The words for what is wrong with a numeral. -/
def NumeralError.message : NumeralError → String
  | .empty => "cannot parse integer from empty string"
  | .invalidDigit => "invalid digit found in string"
  | .tooLarge => "number too large to fit in target type"

/-- The value of a decimal digit. -/
def digit? (c : Char) : Option Nat :=
  if '0' ≤ c ∧ c ≤ '9' then some (c.toNat - 48) else none

/-- Reads digits behind a number. -/
def readDigits (limit : Nat) : Nat → List Char → Except NumeralError Nat
  | n, [] => .ok n
  | n, c :: rest =>
    match digit? c with
    | none => .error .invalidDigit
    | some d => if 10 * n + d < limit then readDigits limit (10 * n + d) rest else .error .tooLarge

/-- Reads at least one digit. -/
def readUnsigned (limit : Nat) : List Char → Except NumeralError Nat
  | [] => .error .invalidDigit
  | s => readDigits limit 0 s

/-- Reads a number that is not negative; a plus sign may stand in front. -/
def readNatural (limit : Nat) : List Char → Except NumeralError Nat
  | [] => .error .empty
  | '+' :: rest => readUnsigned limit rest
  | s => readUnsigned limit s

/-- Reads a number from `-limit` up to, but not including, `limit`. -/
def readInteger (limit : Nat) : List Char → Except NumeralError Int
  | '-' :: rest => (readUnsigned (limit + 1) rest).map fun n => -(n : Int)
  | s => (readNatural limit s).map fun n => (n : Int)

end Workbench.Text
