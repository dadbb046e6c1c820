import PropertySheet.Failure
import PropertySheet.Json.Value
import PropertySheet.Url.Basic

/-!
# Exchanges over the web

What a client sends and what comes back. A transport carries one request to the server of its
address; no response means that the server could not be reached or gave none.
-/

namespace PropertySheet

inductive Method where
  | get
  | put
  | post
deriving DecidableEq, Repr, Inhabited

def Method.name : Method → String
  | .get => "GET"
  | .put => "PUT"
  | .post => "POST"

/-- A request to a server. A body is JSON. -/
structure Query where
  method : Method := .get
  url : Url
  body : Option Json.Value := none

/-- What a server answers: a status and a text. -/
structure Answer where
  status : Nat
  body : String
deriving DecidableEq, Repr, Inhabited

/-- Whether the status says that the request was carried out. -/
def Answer.isSuccess (a : Answer) : Bool := 200 ≤ a.status && a.status < 300

/-- A way to reach servers. -/
structure Transport (m : Type → Type) where
  send : Query → m (Option Answer)

/-- The transport without a network: no server can be reached. -/
def Transport.offline {m : Type → Type} [Monad m] : Transport m := { send := fun _ => pure none }

end PropertySheet
