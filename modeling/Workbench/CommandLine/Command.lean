import Workbench.CommandLine.Option
import Workbench.Operation.Basic

/-!
# Commands

What the program can be told to do: the first word of the command line names a command, and its
options follow. Instead of doing anything the program can be asked for its version, or for help with
itself or with a command.
-/

namespace Workbench.CommandLine

/-- A command. -/
inductive Command where
  /-- Make an account and sign in. -/
  | signUp (name email password : String)
  /-- Sign in to an account. -/
  | signIn (email password : String)
  /-- Sign out. -/
  | signOut
  /-- Say who is signed in. -/
  | whoAmI
  /-- Run an operation on the code in a file, or in the standard input. -/
  | operate (op : Operation) (file : Option String)
  deriving DecidableEq, Repr

/-- What the program is for. -/
def about : String := "Sign in to the code-lab backend and compile, analyze or optimize code"

/-- The name of the program and its version. -/
def version : String := "codelab 0.1.0"

/-- An option for a text. -/
def textOption (name valueName : String) : Opt := ⟨name, valueName, .text⟩

/-- The option for the file that holds the code. -/
def fileOption : Opt := ⟨"file", "path", .path⟩

/-- Commands as they are named. -/
inductive CommandName where
  /-- Make an account and sign in. -/
  | signUp
  /-- Sign in to an account. -/
  | signIn
  /-- Sign out. -/
  | signOut
  /-- Say who is signed in. -/
  | whoAmI
  /-- Run an operation. -/
  | operate (op : Operation)
  deriving DecidableEq, Repr

/-- All commands, in the order in which they are listed. -/
def CommandName.all : List CommandName :=
  [.signUp, .signIn, .signOut, .whoAmI] ++ Operation.all.map .operate

/-- The word that names a command. -/
def CommandName.word : CommandName → String
  | .signUp => "signup"
  | .signIn => "signin"
  | .signOut => "signout"
  | .whoAmI => "whoami"
  | .operate op => op.name

/-- The command of a name. -/
def CommandName.ofWord? (word : String) : Option CommandName :=
  all.find? fun name => name.word == word

/-- The options of a command, each with what it is for. -/
def CommandName.explained : CommandName → List (Opt × String)
  | .signUp =>
    [(textOption "name" "NAME", "Display name"), (textOption "email" "EMAIL", "Account email"),
      (textOption "password" "PASSWORD", "Account password")]
  | .signIn =>
    [(textOption "email" "EMAIL", "Account email"),
      (textOption "password" "PASSWORD", "Account password")]
  | .signOut | .whoAmI => []
  | .operate _ => [(fileOption, "Source file to submit; standard input is read when omitted")]

/-- The options of a command. -/
def CommandName.options (name : CommandName) : List Opt := name.explained.map (·.1)

/-- The command with its options; `none` when one that must be there is not. -/
def CommandName.command? (given : List (String × String)) : CommandName → Option Command
  | .signUp => do
    return .signUp (← valueOf? "name" given) (← valueOf? "email" given)
      (← valueOf? "password" given)
  | .signIn => do return .signIn (← valueOf? "email" given) (← valueOf? "password" given)
  | .signOut => some .signOut
  | .whoAmI => some .whoAmI
  | .operate op => some (.operate op (valueOf? "file" given))

/-- What help can be asked for. -/
inductive Topic where
  /-- The program. -/
  | program
  /-- A command. -/
  | command (name : CommandName)
  /-- Help itself. -/
  | help
  deriving DecidableEq, Repr

/-- The word that asks for help in place of a command. -/
def helpWord : String := "help"

/-- The topic that a word names. -/
def Topic.ofWord? (word : String) : Option Topic :=
  if word = helpWord then some .help else (CommandName.ofWord? word).map .command

/-- Why there is nothing to do. -/
inductive Stop where
  /-- No command is given. -/
  | about
  /-- The version is asked for. -/
  | version
  /-- Help is asked for. -/
  | help (topic : Topic)
  /-- The command line is wrong. -/
  | usage (e : UsageError)
  deriving DecidableEq, Repr

/-- The flag that asks for help. -/
def helpFlag : Opt := ⟨"help", "", .nothing⟩

/-- The flag that asks for the version. -/
def versionFlag : Opt := ⟨"version", "", .nothing⟩

/-- Whether a word asks for help: it is the flag, or its letter comes first. -/
def asksForHelp (word : String) : Bool :=
  match word.toList with
  | '-' :: 'h' :: _ => true
  | _ => word == "--" ++ helpFlag.name

/-- Reads a word behind a command. What is still due is settled before help is given. -/
def CommandName.readWord (name : CommandName) (p : Progress) (word : String) :
    Except Stop Progress :=
  if !p.isOver && asksForHelp word then
    match p.settle with
    | .error e => .error (.usage e)
    | .ok _ => .error (.help (.command name))
  else
    match p.read (helpFlag :: name.options) word with
    | .error e => .error (.usage e)
    | .ok p => .ok p

/-- Reads the words behind a command. -/
def readCommand (name : CommandName) (words : List String) : Except Stop Command :=
  match words.foldlM name.readWord .start with
  | .error stop => .error stop
  | .ok p =>
    match p.settle with
    | .error e => .error (.usage e)
    | .ok p =>
      match name.command? p.given with
      | none => .error (.usage .missing)
      | some command => .ok command

/-- Reads a word that stands in place of a command and starts with two dashes. -/
def readFlag (body : List Char) : Stop :=
  let name := String.ofList (body.takeWhile (· ≠ '='))
  match [(helpFlag, Stop.help .program), (versionFlag, .version)].find? (·.1.name == name) with
  | none => .usage (.unexpectedArgument ("--" ++ name))
  | some (flag, stop) =>
    match body.dropWhile (· ≠ '=') with
    | [] => stop
    | _ :: value => .usage (.unexpectedValue (String.ofList value) flag)

/-- Reads the words behind the one that asks for help: a topic and nothing else, or nothing. -/
def readTopic : List String → Stop
  | [] => .help .program
  | word :: words =>
    match Topic.ofWord? word, words with
    | none, _ => .usage (.unknownCommand word)
    | some topic, [] => .help topic
    | some _, word :: _ => .usage (.unknownCommand word)

/-- Reads a command line. -/
def read : List String → Except Stop Command
  | [] => .error .about
  | word :: words =>
    match word.toList with
    | ['-', '-'] =>
      match words with
      | [] => .error .about
      | word :: _ =>
        .error (.usage (if (Topic.ofWord? word).isSome then .unexpectedArgument word
          else .unknownCommand word))
    | '-' :: '-' :: body => .error (readFlag body)
    | '-' :: 'h' :: _ => .error (.help .program)
    | '-' :: 'V' :: _ => .error .version
    | '-' :: c :: _ => .error (.usage (.unexpectedArgument (String.ofList ['-', c])))
    | _ =>
      match Topic.ofWord? word with
      | some (.command name) => readCommand name words
      | some _ => .error (readTopic words)
      | none => .error (.usage (.unknownCommand word))

end Workbench.CommandLine
