import Workbench.Account.Credentials
import Workbench.Json.Record
import Workbench.Operation.Outcome

/-!
# Responses

The records that the backend answers with, one form for each kind of call, and what they mean.
Fields that are not there, or that say nothing, are given a meaning as well: no flag means no
success, and a blank reason is no reason.
-/

namespace Workbench.Gateway

open Workbench.Json
open Workbench.Text (Bytes)
open Workbench.Account (Verdict)

/-- Whether a flag is set: it must be the literal `true`, or the text `true`. -/
def isSet : Option Value → Bool
  | some (.boolean b) => b
  | some (.string s) => s == "true"
  | _ => false

/-- A text that is there and not blank. -/
def nonBlank (s : Option String) : Option String :=
  s.filter fun s => !Text.isBlankText s

/-- A flag may be any value. -/
def flagField {ρ : Type} (name : String) (get : ρ → Option Value) (set : Value → ρ → ρ) :
    RecordField ρ :=
  .ofSlot name get set readValue true

/-- A text that may be missing or null. -/
def textField {ρ : Type} (name : String) (get : ρ → Option (Option String))
    (set : Option String → ρ → ρ) : RecordField ρ :=
  .ofSlot name get set (fun _ => readOptional readText) false

/-! ### Accounts -/

/-- The response to credentials. A field is `none` as long as it was not read. -/
structure AuthResponse where
  /-- Whether they are accepted. -/
  success : Option Value
  /-- Why they are rejected. -/
  message : Option (Option String)

/-- The form of the response to credentials. -/
def AuthResponse.shape : Shape AuthResponse where
  name := "AuthResponseDto"
  fields :=
    [flagField "success" (·.success) fun x r => { r with success := some x },
      textField "message" (·.message) fun x r => { r with message := some x }]
  empty := ⟨none, none⟩

/-- What the response means. -/
def AuthResponse.verdict (r : AuthResponse) : Verdict :=
  if isSet r.success then .accepted else .rejected (nonBlank r.message.join)

/-! ### Compilation -/

/-- The counts in a response. -/
structure StatsResponse where
  /-- Complaints about characters. -/
  lexical : Option Nat
  /-- Complaints about the order of tokens. -/
  syntactic : Option Nat
  /-- Complaints about types and names. -/
  semantic : Option Nat

/-- A count that may be missing. -/
def countField {ρ : Type} (name : String) (get : ρ → Option Nat) (set : Nat → ρ → ρ) : RecordField ρ :=
  .ofSlot name get set (fun _ => readNatural) true

/-- The form of the counts. -/
def StatsResponse.shape : Shape StatsResponse where
  name := "StatsDto"
  fields :=
    [countField "lexicalErrors" (·.lexical) fun x r => { r with lexical := some x },
      countField "syntaxErrors" (·.syntactic) fun x r => { r with syntactic := some x },
      countField "semanticErrors" (·.semantic) fun x r => { r with semantic := some x }]
  empty := ⟨none, none, none⟩

/-- What the counts mean: one that is missing is zero. -/
def StatsResponse.stats (r : StatsResponse) : Stats :=
  ⟨r.lexical.getD 0, r.syntactic.getD 0, r.semantic.getD 0⟩

/-- The response to a compilation. -/
structure CheckResponse where
  /-- Whether the code is valid. -/
  valid : Option Value
  /-- The complaints. -/
  errors : Option (List String)
  /-- The counts. -/
  stats : Option (Option StatsResponse)

/-- The form of the response to a compilation. -/
def CheckResponse.shape : Shape CheckResponse where
  name := "CheckResponseDto"
  fields :=
    [flagField "valid" (·.valid) fun x r => { r with valid := some x },
      .ofSlot "errors" (·.errors) (fun x r => { r with errors := some x }) readTexts true,
      .ofSlot "stats" (·.stats) (fun x r => { r with stats := some x })
        (fun room => readOptional (StatsResponse.shape.read room)) false]
  empty := ⟨none, none, none⟩

/-- What the response means. -/
def CheckResponse.outcome (r : CheckResponse) : CompileOutcome :=
  if isSet r.valid then .valid
  else .invalid ((r.errors.getD []).map Diagnostic.mk) (r.stats.join.map StatsResponse.stats)

/-! ### Analysis and optimization -/

/-- The reason for a failure, a general one when none is given. -/
def failureReason (error : Option String) : String := (nonBlank error).getD genericFailure

/-- The response to an analysis. -/
structure AnalyzeResponse where
  /-- Whether there is an analysis. -/
  success : Option Value
  /-- The time complexity. -/
  complexity : Option (Option String)
  /-- Why there is no analysis. -/
  error : Option (Option String)

/-- The form of the response to an analysis. -/
def AnalyzeResponse.shape : Shape AnalyzeResponse where
  name := "AnalyzeResponseDto"
  fields :=
    [flagField "success" (·.success) fun x r => { r with success := some x },
      textField "complexity" (·.complexity) fun x r => { r with complexity := some x },
      textField "error" (·.error) fun x r => { r with error := some x }]
  empty := ⟨none, none, none⟩

/-- What the response means. A success must come with a time complexity. -/
def AnalyzeResponse.outcome (r : AnalyzeResponse) : Except String AnalyzeOutcome :=
  if isSet r.success then
    match r.complexity.join with
    | some complexity => .ok (.success complexity)
    | none => .error "analysis succeeded without a complexity"
  else .ok (.failure (failureReason r.error.join))

/-- The response to an optimization. -/
structure OptimizeResponse where
  /-- Whether there is new code. -/
  success : Option Value
  /-- The new code. -/
  code : Option (Option String)
  /-- The time complexity of the new code. -/
  complexity : Option (Option String)
  /-- Why there is no new code. -/
  error : Option (Option String)

/-- The form of the response to an optimization. -/
def OptimizeResponse.shape : Shape OptimizeResponse where
  name := "OptimizeResponseDto"
  fields :=
    [flagField "success" (·.success) fun x r => { r with success := some x },
      textField "optimizedCode" (·.code) fun x r => { r with code := some x },
      textField "complexity" (·.complexity) fun x r => { r with complexity := some x },
      textField "error" (·.error) fun x r => { r with error := some x }]
  empty := ⟨none, none, none, none⟩

/-- What the response means. A success must come with new code. -/
def OptimizeResponse.outcome (r : OptimizeResponse) : Except String OptimizeOutcome :=
  if isSet r.success then
    match r.code.join with
    | some code => .ok (.success code r.complexity.join)
    | none => .error "optimization succeeded without optimizedCode"
  else .ok (.failure (failureReason r.error.join))

end Workbench.Gateway
