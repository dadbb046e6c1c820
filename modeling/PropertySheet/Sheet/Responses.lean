import PropertySheet.Sheet.Asking

/-!
# What a sheet does with responses

A response counts only while its request is pending; any other is dropped without a trace. A failure
leaves the data of the sheet as it is and shows a notice.
-/

namespace PropertySheet

namespace Sheet

def noServiceTypes : Notice :=
  .info "Controller Service"
    "No controller service types found that are applicable for this property."

/-- Tell about a failure. -/
def reportFailure (s : Sheet) (e : Failure) : Sheet := s.showNotice (.failure e.message)

/-- Leave the creation of a service, and tell why. -/
def creationFailed (s : Sheet) (e : Failure) : Sheet := s.closeCreation.reportFailure e

/-- The property that was asked about can be added. A row that has the name by now is selected
instead. -/
def propertyResolved (s : Sheet) (name : String) (d : Descriptor) : Sheet :=
  let s := { s with descriptors := s.descriptors.insert name d }
  match s.findRow? name with
  | some r => (s.selectId r.id).showNotice nameExists
  | none =>
    match s.store.add (.loaded name name none .userDefined) with
    | .error _ => s
    | .ok (store, id) => ((sync { s with store }).selectId id).openEditor id

/-- The types of service on offer have come. -/
def typesListed (s : Sheet) (types : List ServiceType) : Sheet :=
  if types.isEmpty then s.closeCreation.showNotice noServiceTypes
  else
    match s.dialog with
    | some (.createService d) => { s with dialog := some (.createService (d.typesLoaded types)) }
    | _ => s

/-- The service has been created. Its property is looked up again, since the new service has to show
among its values. -/
def serviceCreated (s : Sheet) (service : Service) : Sheet :=
  match s.dialog with
  | some (.createService d) =>
    { s with dialog := some (.createService (d.serviceCreated service.id)) }.ask
      (.refreshDescriptor d.rowId service.id) (.resolveDescriptor · d.property)
  | _ => s

/-- The property of a new service has been looked up: the row takes the service. -/
def descriptorRefreshed (s : Sheet) (rowId : Nat) (serviceId : String) (d : Descriptor) : Sheet :=
  let s := s.closeCreation
  match s.store.findById? rowId with
  | none => s
  | some r =>
    let s := { s with descriptors := s.descriptors.insert r.property d }
    (s.updateRow rowId { value := some (some serviceId) }).sync

/-- The service to go to has been looked up, unless the host did not agree to leave. -/
def serviceLocated (s : Sheet) : Option Service → Sheet
  | some service => s.emit (.navigate service.id service.parentGroupId)
  | none => s

/-- Act on a response to a request of known purpose. One of the wrong kind is dropped. -/
def settle (s : Sheet) (p : Purpose) (r : Response) : Sheet :=
  match p, r with
  | .addProperty name, .descriptor _ (.ok d) => s.propertyResolved name d
  | .addProperty _, .descriptor _ (.error e) => s.reportFailure e
  | .serviceTypes, .serviceTypes _ (.ok types) => s.typesListed types
  | .serviceTypes, .serviceTypes _ (.error e) => s.creationFailed e
  | .createService, .serviceCreated _ (.ok service) => s.serviceCreated service
  | .createService, .serviceCreated _ (.error e) => s.creationFailed e
  | .refreshDescriptor rowId id, .descriptor _ (.ok d) => s.descriptorRefreshed rowId id d
  | .refreshDescriptor _ _, .descriptor _ (.error e) => s.creationFailed e
  | .goToService, .serviceLocated _ (.ok service) => s.serviceLocated service
  | .goToService, .serviceLocated _ (.error e) => s.reportFailure e
  | _, _ => s

/-- Take a response. It is dropped unless its request is pending. -/
def complete (s : Sheet) (r : Response) : Sheet :=
  match s.pending.get? r.token with
  | none => s
  | some p => { s with pending := s.pending.erase r.token }.settle p r

end Sheet

end PropertySheet
