/-!
# Failures of the gateway

Why a call to the backend does not come back with an answer. That the backend turns something
down is an answer and no failure.
-/

namespace Workbench

/-- Why a call fails. -/
inductive GatewayError where
  /-- The request could not be sent, or its response not be received. -/
  | transport (reason : String)
  /-- It took too long. -/
  | timeout (reason : String)
  /-- The response is not what it should be. -/
  | decode (reason : String)
  /-- The response tells of a failure by its status alone. -/
  | status (code : Nat) (preview : String)
  deriving DecidableEq, Repr

/-- The words for a failure. -/
def GatewayError.message : GatewayError → String
  | .transport reason => "request failed: " ++ reason
  | .timeout reason => "request timed out: " ++ reason
  | .decode reason => "unexpected response: " ++ reason
  | .status code preview => "backend returned status " ++ toString code ++ ": " ++ preview

end Workbench
