import Workbench.Text.Numeral

/-!
# Options

Long options of a command line. An option either takes a value, behind an equals sign or as the
next word, or is a flag. A value that is the next word may not start with a dash, unless it is the
dash alone. A complaint about an option comes up when the next option is met or the line ends; a
word that means nothing is complained about at once, before all that is still due.
-/

namespace Workbench.CommandLine

/-- What an option takes. -/
inductive Takes where
  /-- Nothing: the option is a flag. -/
  | nothing
  /-- A text. -/
  | text
  /-- A path, which may not be empty. -/
  | path
  /-- A number below `2 ^ 64`. -/
  | number
  deriving DecidableEq, Repr

/-- An option. -/
structure Opt where
  /-- Its name, without the dashes. -/
  name : String
  /-- The name of its value. -/
  valueName : String
  /-- What it takes. -/
  takes : Takes
  deriving DecidableEq, Repr

/-- How an option is shown. -/
def Opt.label (o : Opt) : String :=
  "--" ++ o.name ++ (if o.takes = .nothing then "" else " <" ++ o.valueName ++ ">")

/-- What is wrong with a command line. -/
inductive UsageError where
  /-- A word means nothing. -/
  | unexpectedArgument (word : String)
  /-- A flag is given a value. -/
  | unexpectedValue (value : String) (o : Opt)
  /-- An option lacks its value. -/
  | valueRequired (o : Opt)
  /-- An option stands twice. -/
  | repeated (o : Opt)
  /-- The value of an option is no number. -/
  | invalidNumber (value : String) (o : Opt) (e : Text.NumeralError)
  /-- An option that must be there is not. -/
  | missing
  /-- There is no such command. -/
  | unknownCommand (word : String)
  deriving DecidableEq, Repr

/-- The first line of what is said about a command line. -/
def UsageError.message : UsageError → String
  | .unexpectedArgument word => "error: unexpected argument '" ++ word ++ "' found"
  | .unexpectedValue value o =>
    "error: unexpected value '" ++ value ++ "' for '" ++ o.label ++ "' found; no more were expected"
  | .valueRequired o => "error: a value is required for '" ++ o.label ++ "' but none was supplied"
  | .repeated o => "error: the argument '" ++ o.label ++ "' cannot be used multiple times"
  | .invalidNumber value o e =>
    "error: invalid value '" ++ value ++ "' for '" ++ o.label ++ "': " ++ e.message
  | .missing => "error: the following required arguments were not provided:"
  | .unknownCommand word => "error: unrecognized subcommand '" ++ word ++ "'"

/-- An option that was met and is not settled yet, with its value if that was met too. -/
structure Due where
  /-- The option. -/
  option : Opt
  /-- Its value. -/
  value : Option String

/-- How far a command line was read. -/
structure Progress where
  /-- The options that are settled, with their values. -/
  given : List (String × String)
  /-- The option that is not. -/
  due : Option Due
  /-- Whether options are over. -/
  isOver : Bool

namespace Progress

/-- Nothing was read yet. -/
def start : Progress := ⟨[], none, false⟩

/-- Settles an option with its value. -/
def accept (p : Progress) (o : Opt) (value : String) : Except UsageError Progress :=
  if p.given.any fun g => g.1 == o.name then .error (.repeated o)
  else
    let accepted := { p with given := p.given ++ [(o.name, value)], due := none }
    match o.takes with
    | .nothing | .text => .ok accepted
    | .path => if value.isEmpty then .error (.valueRequired o) else .ok accepted
    | .number =>
      match Text.readNatural (Nat.pow 2 64) value.toList with
      | .ok _ => .ok accepted
      | .error e => .error (.invalidNumber value o e)

/-- Settles what is due. -/
def settle (p : Progress) : Except UsageError Progress :=
  match p.due with
  | none => .ok p
  | some ⟨o, none⟩ => .error (.valueRequired o)
  | some ⟨o, some value⟩ => p.accept o value

/-- Reads an option and what stands behind its equals sign. -/
def readOption (p : Progress) (o : Opt) (attached : Option String) : Except UsageError Progress :=
  match o.takes, attached with
  | .nothing, some value => .error (.unexpectedValue value o)
  | .nothing, none => p.settle >>= fun p => p.accept o ""
  | _, some value => p.settle >>= fun p => p.accept o value
  | _, none => p.settle >>= fun p => .ok { p with due := some ⟨o, none⟩ }

/-- Reads a word that is no option: a value if one is due. -/
def readPlain (p : Progress) (word : String) : Except UsageError Progress :=
  match p.due with
  | some ⟨o, none⟩ => .ok { p with due := some ⟨o, some word⟩ }
  | _ => .error (.unexpectedArgument word)

/-- Reads a word. -/
def read (options : List Opt) (p : Progress) (word : String) : Except UsageError Progress :=
  if p.isOver then .error (.unexpectedArgument word)
  else
    match word.toList with
    | ['-', '-'] => .ok { p with isOver := true }
    | '-' :: '-' :: body =>
      let name := String.ofList (body.takeWhile (· ≠ '='))
      let attached :=
        match body.dropWhile (· ≠ '=') with
        | [] => none
        | _ :: value => some (String.ofList value)
      match options.find? fun o => o.name == name with
      | some o => p.readOption o attached
      | none => .error (.unexpectedArgument ("--" ++ name))
    | '-' :: c :: _ => .error (.unexpectedArgument (String.ofList ['-', c]))
    | _ => p.readPlain word

end Progress

/-- The options on a command line, with their values. -/
def readOptions (options : List Opt) (words : List String) :
    Except UsageError (List (String × String)) :=
  words.foldlM (Progress.read options) .start >>= Progress.settle >>= fun p => .ok p.given

/-- The value of an option. -/
def valueOf? (name : String) (given : List (String × String)) : Option String :=
  (given.find? fun g => g.1 == name).map (·.2)

end Workbench.CommandLine
