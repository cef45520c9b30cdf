import Workbench.CommandLine.Command

/-!
# Help

The pages that the program prints when it is asked for help: what something is for, how it is
called, and a table of what may follow.
-/

namespace Workbench.CommandLine

/-- A table under a title. All explanations start in one column, two blanks behind the widest
entry. -/
def table (title : String) (rows : List (String × String)) : String :=
  let width := rows.foldl (fun width row => max width row.1.length) 0
  let line (row : String × String) : String :=
    "  " ++ row.1 ++ String.ofList (List.replicate (width - row.1.length + 2) ' ') ++ row.2 ++ "\n"
  title ++ ":\n" ++ String.join (rows.map line)

/-- A page: what something is for, how it is called, and the tables. -/
def page (purpose usage : String) (tables : List String) : String :=
  purpose ++ "\n\nUsage: codelab " ++ usage ++ "\n\n" ++ "\n".intercalate tables

/-- The row of the flag that asks for help. -/
def helpRow : String × String := ("-h, " ++ helpFlag.label, "Print help")

/-- What a command is for. -/
def CommandName.purpose : CommandName → String
  | .signUp => "Create an account and sign in"
  | .signIn => "Sign in to an existing account"
  | .signOut => "Forget the stored session"
  | .whoAmI => "Show the signed-in account"
  | .operate .compile => "Compile-check code"
  | .operate .analyze => "Estimate the time complexity of code"
  | .operate .optimize => "Request an optimized rewrite of code"

/-- How a command is called: the options that must be there are named. -/
def CommandName.usage (name : CommandName) : String :=
  " ".intercalate (name.word ::
    match name with
    | .operate _ => ["[OPTIONS]"]
    | _ => name.options.map Opt.label)

/-- What help is for. -/
def helpPurpose : String := "Print this message or the help of the given subcommand(s)"

/-- The page on a topic. -/
def Topic.page : Topic → String
  | .program =>
    CommandLine.page about "<COMMAND>"
      [table "Commands"
        (CommandName.all.map (fun name => (name.word, name.purpose)) ++ [(helpWord, helpPurpose)]),
        table "Options" [helpRow, ("-V, " ++ versionFlag.label, "Print version")]]
  | .command name =>
    CommandLine.page name.purpose name.usage
      [table "Options" (name.explained.map (fun o => ("    " ++ o.1.label, o.2)) ++ [helpRow])]
  | .help =>
    CommandLine.page helpPurpose (helpWord ++ " [COMMAND]...")
      [table "Arguments" [("[COMMAND]...", "Print help for the subcommand(s)")]]

end Workbench.CommandLine
