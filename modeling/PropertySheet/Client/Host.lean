import PropertySheet.Backend
import PropertySheet.Client.Basic
import PropertySheet.SheetConfig

/-!
# The host of a sheet

A host answers the requests of a sheet through a client, for the one component that the sheet shows.
Before the user leaves for a service with unsaved changes, the policy decides: the changes are
saved, against the newest revision, or given up, or the user stays.
-/

namespace PropertySheet

/-- A client for one component, and what to do with its unsaved changes. -/
structure Host (m : Type → Type) where
  client : Client m
  component : ComponentRef
  policy : UnsavedPolicy

namespace Host

variable {m : Type → Type} [Monad m]

def descriptor (h : Host m) (name : String) : Call m Descriptor :=
  h.client.descriptor h.component name

/-- Whether the user may leave with unsaved changes. Under `save` they are saved first, and a
failure to save them is one to leave. -/
def beforeLeaving (h : Host m) (changes : Changes) : Call m LeaveDecision := do
  if changes.isEmpty then return .proceed
  match h.policy with
  | .discard => return .proceed
  | .cancel => return .cancelled
  | .save =>
    let s ← h.client.component h.component
    let _ ← h.client.update s changes
    return .proceed

/-- The host as what answers requests. -/
def backend (h : Host m) : Backend m :=
  { descriptor := fun name => (h.descriptor name).run
    beforeLeaving := fun changes => (h.beforeLeaving changes).run
    serviceTypes := fun t => (h.client.serviceTypes t).run
    createService := fun scope t => (h.client.createService scope t).run
    service := fun id => (h.client.service id).run }

end Host

end PropertySheet
