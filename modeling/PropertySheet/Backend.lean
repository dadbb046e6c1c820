import PropertySheet.Request

/-!
# Answering requests

A backend is everything a sheet asks: the host that edits one component, and the services. Its calls
live in a monad, so that they may depend on one another; the sheet sees only the responses.

`Backend.dispatch` answers any request under its token, with the kind of response that fits it.
-/

namespace PropertySheet

/-- Whether the host lets the user leave for a service. -/
inductive LeaveDecision where
  | proceed
  | cancelled
deriving DecidableEq, Repr, Inhabited

/-- The calls that answer requests. -/
structure Backend (m : Type → Type) [Monad m] where
  /-- The descriptor of a property of the edited component. -/
  descriptor : String → m (Except Failure Descriptor)
  /-- Asked before leaving for a service, with the unsaved changes, which may be none. -/
  beforeLeaving : Changes → m (Except Failure LeaveDecision) := fun _ => pure (.ok .proceed)
  serviceTypes : String → m (Except Failure (List ServiceType))
  createService : Scope → String → m (Except Failure Service)
  service : String → m (Except Failure Service)

namespace Backend

variable {m : Type → Type} [Monad m]

/-- Look up a service. -/
def locate (b : Backend m) (id : String) : m (Except Failure (Option Service)) := do
  return (← b.service id).map some

/-- Ask whether to leave if there is anything to ask about, then look up the service. -/
def leaveFor (b : Backend m) (id : String) (unsaved : Option Changes) :
    m (Except Failure (Option Service)) :=
  match unsaved with
  | none => b.locate id
  | some changes => do
    match ← b.beforeLeaving changes with
    | .error e => return .error e
    | .ok .cancelled => return .ok none
    | .ok .proceed => b.locate id

/-- The response to a request. -/
def dispatch (b : Backend m) : Request → m Response
  | .resolveDescriptor token property => do
    return .descriptor token (← b.descriptor property)
  | .listServiceTypes token serviceType => do
    return .serviceTypes token (← b.serviceTypes serviceType)
  | .createService token scope typeName => do
    return .serviceCreated token (← b.createService scope typeName)
  | .goToService token id unsaved => do
    return .serviceLocated token (← b.leaveFor id unsaved)

end Backend

end PropertySheet
