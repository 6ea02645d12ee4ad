/-!
# Response codes

What became of a request to the endpoint. Positive codes are HTTP statuses, each of them standing for its
whole class where the class has no code of its own; negative codes are failures that never produced a
status.
-/

namespace AimAnalysis

/-- The outcome of a request. -/
inductive ResponseCode where
  /-- The endpoint answered. -/
  | success
  /-- The endpoint refused the request. -/
  | badRequest
  /-- The key was refused. -/
  | unauthorized
  /-- The endpoint expects windows of another size. -/
  | invalidSequence
  /-- The endpoint failed. -/
  | serverError
  /-- No answer came in time. -/
  | timeout
  /-- The endpoint could not be reached. -/
  | networkError
  /-- The answer could not be read. -/
  | parseError
  /-- Any other status. -/
  | unknown
  /-- The endpoint is left alone for now. -/
  | waiting
deriving DecidableEq, Repr

namespace ResponseCode

/-- The number of a code. -/
def number : ResponseCode → Int
  | .success => 200
  | .badRequest => 400
  | .unauthorized => 403
  | .invalidSequence => 422
  | .serverError => 500
  | .timeout => -1
  | .networkError => -2
  | .parseError => -3
  | .unknown => -4
  | .waiting => -5

/-- The name of a code. -/
def name : ResponseCode → String
  | .success => "SUCCESS"
  | .badRequest => "BAD_REQUEST"
  | .unauthorized => "UNAUTHORIZED"
  | .invalidSequence => "INVALID_SEQUENCE"
  | .serverError => "SERVER_ERROR"
  | .timeout => "TIMEOUT"
  | .networkError => "NETWORK_ERROR"
  | .parseError => "PARSE_ERROR"
  | .unknown => "UNKNOWN_ERROR"
  | .waiting => "WAITING"

/-- The text of a code. -/
def text (c : ResponseCode) : String := c.name ++ " (" ++ toString c.number ++ ")"

/-- The code of an HTTP status: its own if it has one, else that of its class. -/
def ofStatus (status : Nat) : ResponseCode :=
  if status = 200 then .success
  else if status = 403 then .unauthorized
  else if status = 422 then .invalidSequence
  else if 500 ≤ status then .serverError
  else if 400 ≤ status then .badRequest
  else .unknown

end ResponseCode

/-- A failed request. -/
structure TransportError where
  /-- What became of the request. -/
  code : ResponseCode
  /-- Details in words. -/
  message : String
  /-- The body that came with the failure. -/
  body : Option String := none
deriving DecidableEq, Repr

/-- The text of a failed request. -/
def TransportError.text (e : TransportError) : String := e.code.text ++ ": " ++ e.message

end AimAnalysis
