import PropertySheet.Json.Decode

/-!
# Failures

Everything that can go wrong outside the sheet itself, by cause. `Failure.message` is the one place
where a cause gets its wording.
-/

namespace PropertySheet

/-- Why an exchange with the backend gave no answer to read. -/
inductive ExchangeFailure where
  /-- The address is not one that can be asked. -/
  | badAddress
  /-- The request got no response. -/
  | noResponse (url : String)
  /-- The body of the response is not of the expected form. -/
  | badBody
deriving DecidableEq, Repr

def ExchangeFailure.message : ExchangeFailure → String
  | .badAddress => "builder error"
  | .noResponse url => "error sending request for url (" ++ url ++ ")"
  | .badBody => "error decoding response body"

/-- What went wrong. -/
inductive Failure where
  | unknownRow (id : Nat)
  /-- The name belongs to a row already; that row may be a hidden one. -/
  | duplicateProperty (key : String) (hidden : Bool)
  | exchange (cause : ExchangeFailure)
  | malformedJson
  | undecodable (cause : Json.DecodeError)
  | malformedYaml
  | missingFile
  | config (message : String)
  | response (message : String)
  /-- The backend answered with a status that says no. -/
  | backend (status : Nat) (message : String)
deriving DecidableEq, Repr

def Failure.message : Failure → String
  | .unknownRow id => "Unknown row: " ++ toString id
  | .duplicateProperty key _ => "Property '" ++ key ++ "' already exists"
  | .exchange cause => "HTTP error: " ++ cause.message
  | .malformedJson => "JSON error: malformed text"
  | .undecodable cause => "JSON error: " ++ cause.message
  | .malformedYaml => "YAML error: malformed document"
  | .missingFile => "IO error: No such file or directory (os error 2)"
  | .config message => "Config error: " ++ message
  | .response message => "Unexpected response: " ++ message
  | .backend status message => "Backend returned " ++ toString status ++ ": " ++ message

end PropertySheet
