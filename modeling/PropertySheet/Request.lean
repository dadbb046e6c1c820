import PropertySheet.Changes
import PropertySheet.Descriptor
import PropertySheet.Failure
import PropertySheet.Service

/-!
# Requests and responses

A sheet never waits. What it needs from outside it asks for in a request under a fresh token, and
the answer comes back under the same token whenever it is ready.
-/

namespace PropertySheet

/-- Identifies one request in the life of a sheet. -/
abbrev Token := Nat

inductive Request where
  | resolveDescriptor (token : Token) (property : String)
  | listServiceTypes (token : Token) (serviceType : String)
  | createService (token : Token) (scope : Scope) (typeName : String)
  /-- Look up a service to go to. With changes, the host has to agree to leave first. -/
  | goToService (token : Token) (serviceId : String) (unsaved : Option Changes)
deriving DecidableEq, Repr

def Request.token : Request → Token
  | .resolveDescriptor t _ | .listServiceTypes t _ | .createService t _ _ | .goToService t _ _ => t

inductive Response where
  | descriptor (token : Token) (result : Except Failure Descriptor)
  | serviceTypes (token : Token) (result : Except Failure (List ServiceType))
  | serviceCreated (token : Token) (result : Except Failure Service)
  /-- No service means that the host did not agree to leave. -/
  | serviceLocated (token : Token) (result : Except Failure (Option Service))

def Response.token : Response → Token
  | .descriptor t _ | .serviceTypes t _ | .serviceCreated t _ | .serviceLocated t _ => t

end PropertySheet
