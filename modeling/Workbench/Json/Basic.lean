import Workbench.Decimal.Shortest
import Workbench.Text.Quoted
import Workbench.Text.Utf8

/-!
# JSON values and faults

The values that JSON text can stand for, and the reasons for which a reader may refuse a text.
A fault says what is wrong and how many bytes were still unread at the place it points to; line
and column follow from that number and the text as a whole.
-/

namespace Workbench.Json

open Workbench.Text (Bytes)

/-- A number. Integers that fit in 64 bits stay exact, every other number is rounded. -/
inductive Number where
  /-- An integer from `-2 ^ 63` to `2 ^ 64 - 1`. -/
  | integer (i : Int)
  /-- Any other number. -/
  | float (x : Decimal.Binary64)
  deriving DecidableEq, Repr

/-- A JSON value. Members keep the order in which they were written. -/
inductive Value where
  /-- The literal `null`. -/
  | null
  /-- The literals `true` and `false`. -/
  | boolean (b : Bool)
  /-- A number. -/
  | number (n : Number)
  /-- A text. -/
  | string (s : String)
  /-- A sequence. -/
  | array (elements : List Value)
  /-- Names with values. -/
  | object (members : List (String × Value))
  deriving Inhabited

/-- What a reader met instead of what it wanted. -/
inductive Found where
  /-- The literal `null`. -/
  | null
  /-- A truth value. -/
  | boolean (b : Bool)
  /-- A number. -/
  | number (n : Number)
  /-- A text. -/
  | string (s : String)
  /-- The start of a sequence. -/
  | sequence
  /-- The start of an object. -/
  | map
  deriving DecidableEq, Repr

/-- What is met when a value stands where it is not wanted. -/
def Value.found : Value → Found
  | .null => .null
  | .boolean b => .boolean b
  | .number n => .number n
  | .string s => .string s
  | .array _ => .sequence
  | .object _ => .map

/-- The words for what was met. -/
def Found.describe : Found → String
  | .null => "null"
  | .boolean b => "boolean `" ++ (if b then "true" else "false") ++ "`"
  | .number (.integer i) => "integer `" ++ toString i ++ "`"
  | .number (.float x) => "floating point `" ++ x.text ++ "`"
  | .string s => "string " ++ Text.quoted s
  | .sequence => "sequence"
  | .map => "map"

/-- What a reader wanted. -/
inductive Wanted where
  /-- A text. -/
  | string
  /-- A text that names a place on disk. -/
  | path
  /-- An integer from 0 to `2 ^ 64 - 1`. -/
  | natural
  /-- A truth value. -/
  | boolean
  /-- A sequence. -/
  | sequence
  /-- An object with arbitrary names. -/
  | map
  /-- An object with fixed names. -/
  | record (name : String)
  deriving DecidableEq, Repr

/-- The words for what was wanted. -/
def Wanted.describe : Wanted → String
  | .string => "a string"
  | .path => "path string"
  | .natural => "u64"
  | .boolean => "a boolean"
  | .sequence => "a sequence"
  | .map => "a map"
  | .record name => "struct " ++ name

/-- The message for a value of the wrong kind. -/
def mismatch (found : Found) (wanted : Wanted) : String :=
  "invalid type: " ++ found.describe ++ ", expected " ++ wanted.describe

/-- The message for an integer outside the wanted range. -/
def misfit (i : Int) (wanted : Wanted) : String :=
  "invalid value: integer `" ++ toString i ++ "`, expected " ++ wanted.describe

/-- Why a text is refused. -/
inductive Cause where
  /-- The text ends where a value is due. -/
  | endInValue
  /-- The text ends inside a string. -/
  | endInString
  /-- The text ends inside a sequence. -/
  | endInList
  /-- The text ends inside an object. -/
  | endInObject
  /-- No value starts here. -/
  | expectedValue
  /-- A literal is misspelt. -/
  | expectedIdent
  /-- A colon is missing after a name. -/
  | expectedColon
  /-- A sequence goes on without a comma. -/
  | expectedListSeparator
  /-- An object goes on without a comma. -/
  | expectedObjectSeparator
  /-- Something follows a complete value. -/
  | trailingCharacters
  /-- A comma stands before a closing bracket. -/
  | trailingComma
  /-- A name is not a string. -/
  | keyNotString
  /-- A number is malformed. -/
  | invalidNumber
  /-- A number is too large. -/
  | numberOutOfRange
  /-- A backslash starts no escape. -/
  | invalidEscape
  /-- A control character stands unescaped in a string. -/
  | controlCharacter
  /-- Half of a surrogate pair stands alone. -/
  | loneSurrogate
  /-- The second half of a surrogate pair is missing. -/
  | endOfEscape
  /-- A string is not well-formed UTF-8. -/
  | invalidCodePoint
  /-- Brackets are nested too deeply. -/
  | tooDeep
  /-- A value has the wrong kind. -/
  | wrongType (found : Found) (wanted : Wanted)
  /-- An integer is outside the wanted range. -/
  | wrongValue (found : Int) (wanted : Wanted)
  /-- A name of a record occurs twice. -/
  | duplicateField (name : String)
  /-- A record written as a sequence is too short. -/
  | tooShort (count : Nat) (record : String) (size : Nat)
  /-- The value is well-formed, and refused by the rules of its own type. -/
  | rejected (reason : String)
  deriving DecidableEq, Repr

/-- The words for a cause. -/
def Cause.describe : Cause → String
  | .endInValue => "EOF while parsing a value"
  | .endInString => "EOF while parsing a string"
  | .endInList => "EOF while parsing a list"
  | .endInObject => "EOF while parsing an object"
  | .expectedValue => "expected value"
  | .expectedIdent => "expected ident"
  | .expectedColon => "expected `:`"
  | .expectedListSeparator => "expected `,` or `]`"
  | .expectedObjectSeparator => "expected `,` or `\x7d`"
  | .trailingCharacters => "trailing characters"
  | .trailingComma => "trailing comma"
  | .keyNotString => "key must be a string"
  | .invalidNumber => "invalid number"
  | .numberOutOfRange => "number out of range"
  | .invalidEscape => "invalid escape"
  | .controlCharacter => "control character (\\u0000-\\u001F) found while parsing a string"
  | .loneSurrogate => "lone leading surrogate in hex escape"
  | .endOfEscape => "unexpected end of hex escape"
  | .invalidCodePoint => "invalid unicode code point"
  | .tooDeep => "recursion limit exceeded"
  | .wrongType found wanted => mismatch found wanted
  | .wrongValue found wanted => misfit found wanted
  | .duplicateField name => "duplicate field `" ++ name ++ "`"
  | .tooShort count record size =>
    "invalid length " ++ toString count ++ ", expected struct " ++ record ++ " with " ++
      toString size ++ " element" ++ (if size = 1 then "" else "s")
  | .rejected reason => reason

/-- A refusal: its cause and, unless the value as a whole is at fault, the number of bytes that
were unread at the place it points to. -/
structure Fault where
  /-- What is wrong. -/
  cause : Cause
  /-- How many bytes follow the place. -/
  unread : Option Nat
  deriving DecidableEq, Repr

/-- A fault that points just before the unread bytes. -/
def Fault.before (cause : Cause) (rest : Bytes) : Fault := ⟨cause, some rest.length⟩

/-- A fault that points just after the first unread byte, or at the end when there is none. -/
def Fault.after (cause : Cause) (rest : Bytes) : Fault := ⟨cause, some rest.tail.length⟩

/-- Line and column of a place in a text: lines count from one, columns count the bytes since
the last line feed. -/
def position (text : Bytes) (index : Nat) : Nat × Nat :=
  let before := text.take index
  (1 + before.count 10, (before.reverse.takeWhile (· ≠ 10)).length)

/-- The message of a fault in a text. -/
def Fault.message (text : Bytes) (fault : Fault) : String :=
  match fault.unread with
  | none => fault.cause.describe
  | some unread =>
    let place := position text (text.length - unread)
    fault.cause.describe ++ " at line " ++ toString place.1 ++ " column " ++ toString place.2

/-- The result of reading at the front of the unread bytes: a value and the bytes after it. -/
abbrev Reading (α : Type) := Except Fault (α × Bytes)

end Workbench.Json
