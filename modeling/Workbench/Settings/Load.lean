import Workbench.CommandLine.Option
import Workbench.Disk.Basic
import Workbench.Settings.Basic
import Workbench.Settings.ConfigFile
import Workbench.Settings.Environment

/-!
# Loading settings

Settings come from a configuration file, from the environment and from the command line; what
comes later in this order wins, setting by setting. Only one file is read, the first one there is
of a list of places. A command line with any option on it also decides about the flag.
-/

namespace Workbench.Settings

open Workbench.CommandLine (Opt UsageError)

/-- Where settings are loaded. -/
structure Surroundings where
  /-- The variables of the environment. -/
  environment : List (String × String)
  /-- The disk. -/
  disk : Disk
  /-- The words of the command line, without the name of the program. -/
  arguments : List String

/-- Why settings cannot be loaded. -/
inductive LoadError where
  /-- The command line is wrong. -/
  | usage (e : UsageError)
  /-- A configuration file cannot be read. -/
  | file (path reason : String)
  /-- A value is of the wrong kind. -/
  | value (reason : String)

/-- The first line of what is said when settings cannot be loaded. -/
def LoadError.message : LoadError → String
  | .usage e => "Failed to parse command-line arguments: " ++ e.message
  | .file path reason => "Configuration file error in '" ++ path ++ "': " ++ reason
  | .value reason => "Failed to merge CLI with configuration: " ++ reason

/-! ### The command line -/

/-- The options. -/
def options : List Opt :=
  [⟨"config-path", "CONFIG_PATH", .path⟩, ⟨"base-url", "BASE_URL", .text⟩,
    ⟨"session-dir", "SESSION_DIR", .path⟩,
    ⟨"request-timeout-secs", "REQUEST_TIMEOUT_SECS", .number⟩,
    ⟨"discard-stale-responses", "", .nothing⟩]

/-- A number as a value. -/
def ofNumber (s : String) : Value :=
  match Text.readNatural (Nat.pow 2 64) s.toList with
  | .ok n => .integer n
  | .error _ => .text s

/-- The settings on a command line. -/
def ofOptions (given : List (String × String)) : List (String × Value) :=
  let value? (name : String) : Option String := CommandLine.valueOf? name given
  let some? (key : String) (v : Option Value) : List (String × Value) :=
    match v with
    | some v => [(key, v)]
    | none => []
  some? "base_url" ((value? "base-url").map .text) ++
    some? "session_dir" ((value? "session-dir").map .text) ++
    some? "request_timeout_secs" ((value? "request-timeout-secs").map ofNumber) ++
    (if given.isEmpty then []
    else [("discard_stale_responses", .boolean (value? "discard-stale-responses").isSome)])

/-! ### The environment -/

/-- A variable of the environment. -/
def environmentValue? (s : Surroundings) (name : String) : Option String :=
  (s.environment.reverse.find? fun e => e.1 == name).map (·.2)

/-- The settings in the environment: their names have a common beginning, and case does not
matter. -/
def ofEnvironment (s : Surroundings) : List (String × Value) :=
  s.environment.reverse.filterMap fun e =>
    let name := e.1.toList.map Char.toLower
    let start := "codelab_".toList
    if start.isPrefixOf name then some (String.ofList (name.drop start.length), ofVariable e.2)
    else none

/-! ### The configuration file -/

/-- The path of a hidden configuration file in a folder. -/
def hiddenFile (folder : String) : String := Disk.Path.join folder ".codelab.toml"

/-- The two places beneath a folder for configurations. -/
def placesIn (folder : String) : List String :=
  [Disk.Path.join folder "codelab/config.toml", hiddenFile folder]

/-- The places for configuration files, the first choice first. -/
def places (s : Surroundings) (given : List (String × String)) : List String :=
  let home := environmentValue? s "HOME"
  let configHome := (environmentValue? s "XDG_CONFIG_HOME").filter Disk.Path.isAbsolute
  (CommandLine.valueOf? "config-path" given).toList ++
    (environmentValue? s "CODELAB_CONFIG_PATH").toList ++
    configHome.toList.flatMap placesIn ++
    placesIn "/etc/xdg" ++
    (home.map fun h => Disk.Path.join h ".config").toList.flatMap placesIn ++
    home.toList.map hiddenFile ++
    [".codelab.toml"]

/-- The settings in the first of the given files that is there. -/
def ofFiles (disk : Disk) : List String → Except LoadError (List (String × Value))
  | [] => .ok []
  | path :: rest =>
    match disk.fileAt path with
    | .error _ => ofFiles disk rest
    | .ok data =>
      match Text.ofBytes? data with
      | none => .error (.file path Disk.Failure.notText.message)
      | some text =>
        match ConfigFile.read text with
        | .ok settings => .ok settings
        | .error (line, column) =>
          .error (.file path ("TOML parse error at line " ++ toString line ++ ", column " ++
            toString column))

/-! ### All together -/

/-- The value of a setting in the first layer that has one. -/
def find? (layers : List (List (String × Value))) (key : String) : Option Value :=
  layers.findSome? fun layer => (layer.find? fun e => e.1 == key).map (·.2)

/-- A setting that may be left out. -/
def optional {α : Type} (read : Value → Except String α) : Option Value → Except LoadError (Option α)
  | none => .ok none
  | some v =>
    match read v with
    | .ok x => .ok (some x)
    | .error reason => .error (.value reason)

/-- The settings in a list of layers, the strongest first. Of several values of the wrong kind,
the one whose setting comes first in the alphabet is complained about. -/
def ofLayers (layers : List (List (String × Value))) : Except LoadError Settings := do
  let baseUrl ← optional (Value.asText .string) (find? layers "base_url")
  let discard ← optional Value.asBoolean (find? layers "discard_stale_responses")
  let timeout ← optional Value.asNatural (find? layers "request_timeout_secs")
  let dir ← optional (Value.asText .path) (find? layers "session_dir")
  return ⟨baseUrl, dir, timeout, discard.getD false⟩

/-- Loads the settings. -/
def load (s : Surroundings) : Except LoadError Settings :=
  match CommandLine.readOptions options s.arguments with
  | .error e => .error (.usage e)
  | .ok given =>
    match ofFiles s.disk (places s given) with
    | .error e => .error e
    | .ok file => ofLayers [ofOptions given, ofEnvironment s, file]

end Workbench.Settings
