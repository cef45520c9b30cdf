import Workbench.Json.Basic
import Workbench.Text.Numeral

/-!
# Values of settings

What a setting can be given, and how it is taken for what it has to be. No value is converted into
another kind: a number is no text, and a text is no number.
-/

namespace Workbench.Settings

open Workbench.Decimal (Binary64)
open Workbench.Json (Wanted)

/-- The value of a setting. -/
inductive Value where
  /-- A text. -/
  | text (s : String)
  /-- A whole number. -/
  | integer (i : Int)
  /-- Any other number. -/
  | float (x : Binary64)
  /-- A number beyond all bounds. -/
  | infinite (negative : Bool)
  /-- What is written like a number and is none. -/
  | notNumber
  /-- A truth value. -/
  | boolean (b : Bool)
  /-- A sequence of values. -/
  | sequence
  /-- Names with values. -/
  | map
  deriving DecidableEq, Repr

/-- The words for a value. -/
def Value.describe : Value → String
  | .text s => "string " ++ Text.quoted s
  | .integer i => "integer `" ++ toString i ++ "`"
  | .float x => "floating point `" ++ x.textIn .positional ++ "`"
  | .infinite negative => "floating point `" ++ (if negative then "-inf" else "inf") ++ "`"
  | .notNumber => "floating point `NaN`"
  | .boolean b => "boolean `" ++ (if b then "true" else "false") ++ "`"
  | .sequence => "sequence"
  | .map => "map"

/-- The message for a value of the wrong kind. -/
def mismatch (v : Value) (wanted : Wanted) : String :=
  "invalid type: " ++ v.describe ++ ", expected " ++ wanted.describe

/-- Takes a value for a text, which may be wanted as a path. -/
def Value.asText (wanted : Wanted) : Value → Except String String
  | .text s => .ok s
  | v => .error (mismatch v wanted)

/-- Takes a value for a number that is not negative. -/
def Value.asNatural : Value → Except String Nat
  | .integer i => if i < 0 then .error (Json.misfit i .natural) else .ok i.toNat
  | v => .error (mismatch v .natural)

/-- Takes a value for a truth value. -/
def Value.asBoolean : Value → Except String Bool
  | .boolean b => .ok b
  | v => .error (mismatch v .boolean)

/-- The number nearest to `± digits * 10 ^ scale`, where `digits` has `size` digits. -/
def ofDecimal (negative : Bool) (digits size : Nat) (scale : Int) : Value :=
  if digits = 0 ∨ scale + size < -400 then .float ⟨negative, .zero⟩
  else if 400 < scale + size then .infinite negative
  else
    match Binary64.ofDecimal negative digits scale with
    | some x => .float x
    | none => .infinite negative

/-- The number in decimal digits with a point or an exponent, when the text is one. -/
def readFloat (s : List Char) : Option Value :=
  let (negative, s) :=
    match s with
    | '-' :: rest => (true, rest)
    | '+' :: rest => (false, rest)
    | _ => (false, s)
  let isDigit (c : Char) : Bool := (Text.digit? c).isSome
  let whole := s.takeWhile isDigit
  let (fraction, rest) :=
    match s.dropWhile isDigit with
    | '.' :: rest => (rest.takeWhile isDigit, rest.dropWhile isDigit)
    | rest => ([], rest)
  let exponent : Option Int :=
    match rest with
    | [] => some 0
    | e :: rest =>
      if e = 'e' ∨ e = 'E' then
        match Text.readInteger (Nat.pow 10 30) rest with
        | .ok i => some i
        | .error _ => none
      else none
  let digits := whole ++ fraction
  if digits = [] then none
  else
    match exponent, Text.readDigits (Nat.pow 10 digits.length) 0 digits with
    | some e, .ok n => some (ofDecimal negative n digits.length (e - fraction.length))
    | _, _ => none

end Workbench.Settings
