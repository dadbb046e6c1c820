import PropertySheet.Client.Transport
import PropertySheet.Component.Snapshot
import PropertySheet.Json.Read

/-!
# The client of the backend

A client knows the root of the backend's interface and carries out single calls there. Each call
sends one request; a status that says no is a failure that carries the text of the answer, and a
text that is not what the call expects is a failure as well.
-/

namespace PropertySheet

open Json

/-- A client over a transport. -/
structure Client (m : Type → Type) where
  /-- The root of the interface, without a slash at its end. -/
  root : String
  /-- Sent with every revision, so that the backend can tell the edits of its clients apart. -/
  clientId : String
  transport : Transport m

/-- What a call gives, or why it failed. -/
abbrev Call (m : Type → Type) (α : Type) : Type := ExceptT Failure m α

namespace Client

/-- An address without the slashes at its end. -/
def trimRoot (address : String) : String :=
  String.ofList (address.toList.reverse.dropWhile (· = '/')).reverse

variable {m : Type → Type} [Monad m]

/-- A client of the backend at an address. -/
def ofAddress (address clientId : String) (transport : Transport m) : Client m :=
  { root := trimRoot address, clientId, transport }

/-! ## Requests -/

/-- The address of a path below the root. -/
def url (c : Client m) (path : String) : Except Failure Url :=
  match Url.parse? (c.root ++ "/" ++ path) with
  | some u => .ok u
  | none => .error (.exchange .badAddress)

/-- The text of an answer that says yes. -/
def accepted (a : Answer) : Except Failure String :=
  if a.isSuccess then .ok a.body else .error (.backend a.status a.body)

/-- The value of a JSON text. -/
def decoded {α : Type} (d : Decoder α) (text : String) : Except Failure α :=
  match Value.parse? text with
  | none => .error (.exchange .badBody)
  | some v => (d v).mapError fun _ => .exchange .badBody

/-- Send a request, and read the answer. -/
def send {α : Type} (c : Client m) (q : Query) (d : Decoder α) : Call m α := do
  match ← c.transport.send q with
  | none => throw (.exchange (.noResponse q.url.text))
  | some a => liftM (accepted a >>= decoded d)

/-- Ask for something below the root, with the pairs of a form. -/
def fetch {α : Type} (c : Client m) (path : String) (pairs : List (String × String))
    (d : Decoder α) : Call m α := do
  let url ← liftM (c.url path)
  c.send { url := url.withForm pairs } d

/-- Send a body below the root. -/
def submit {α : Type} (c : Client m) (method : Method) (path : String) (body : Value)
    (d : Decoder α) : Call m α := do
  let url ← liftM (c.url path)
  c.send { method, url, body := some body } d

/-! ## Components -/

/-- Any JSON value. -/
def anyValue : Decoder Value := .ok

/-- The descriptor of one property of a component. -/
def descriptor (c : Client m) (component : ComponentRef) (name : String) : Call m Descriptor :=
  c.fetch component.descriptorsPath [("propertyName", name)] Descriptor.entityDecoder

def component (c : Client m) (component : ComponentRef) : Call m Snapshot := do
  let entity ← c.fetch component.path [] anyValue
  liftM (Snapshot.ofEntity component.kind entity)

/-- The past values of the properties of a component. -/
def history (c : Client m) (id : String) : Call m Histories :=
  c.fetch ("flow/history/components/" ++ id) [] Histories.entityDecoder

/-- Save changes against the revision of a snapshot. The result is the component after them. -/
def update (c : Client m) (s : Snapshot) (changes : Changes) : Call m Snapshot := do
  let entity ← c.submit .put s.component.path (s.updateBody changes c.clientId) anyValue
  liftM (Snapshot.ofEntity s.component.kind entity)

/-! ## Services -/

/-- The types of service that implement an interface. -/
def serviceTypes (c : Client m) (serviceType : String) : Call m (List ServiceType) :=
  c.fetch "flow/controller-service-types" [("serviceType", serviceType)] ServiceType.entityDecoder

/-- The body that creates a service. -/
def creationBody (c : Client m) (typeName : String) : Value :=
  .object [
    ("revision", .object [("clientId", .string c.clientId), ("version", .nat 0)]),
    ("component", .object [("type", .string typeName)])]

def createService (c : Client m) (scope : Scope) (typeName : String) : Call m Service :=
  c.submit .post scope.path (c.creationBody typeName) Service.decoder

def service (c : Client m) (id : String) : Call m Service :=
  c.fetch ("controller-services/" ++ id) [] Service.decoder

end Client

end PropertySheet
